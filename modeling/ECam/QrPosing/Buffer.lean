import ECam.QrPosing.Detector

/-!
# The buffer of notes as a list

The occupied entries of the buffer are the first `k`.  Seen as a list, noting appends
as long as there is room, the tests for noted areas search the list, and the selection
folds over it.
-/

namespace ECam.QrPosing

open ECam.Library

/-! ## The buffer as a list -/

/-- The entries in use. -/
def Notes.entries (notes : Notes) : List QrCode :=
  notes.l1.toList.take notes.k

/-- The occupied entries are the first `k`. -/
structure Notes.WellFormed (notes : Notes) : Prop where
  k_le : notes.k ≤ 5
  occupied : ∀ (index : Nat) (inBounds : index < 5),
    notes.l1[index].o = decide (index < notes.k)

theorem resetNotes_wellFormed (l1 : Vector QrCode 5) : (resetNotes l1).WellFormed where
  k_le := Nat.zero_le 5
  occupied := by
    intro index inBounds
    simp [resetNotes]

theorem resetNotes_entries (l1 : Vector QrCode 5) : (resetNotes l1).entries = [] := rfl

/-- A full buffer stays as it is. -/
theorem Notes.note_full {notes : Notes} (full : ¬notes.k < 5) (code : QrCode) :
    notes.note code = notes :=
  dif_neg full

theorem Notes.foldl_note_full {notes : Notes} (full : ¬notes.k < 5) (codes : List QrCode) :
    codes.foldl Notes.note notes = notes := by
  induction codes with
  | nil => rfl
  | cons code codes ih => rw [List.foldl_cons, Notes.note_full full, ih]

namespace Notes.WellFormed

variable {notes : Notes}

theorem length_entries (wellFormed : notes.WellFormed) : notes.entries.length = notes.k := by
  have bound := wellFormed.k_le
  simp only [Notes.entries, List.length_take, Vector.length_toList]
  omega

theorem note (wellFormed : notes.WellFormed) {code : QrCode} (occupied : code.o = true) :
    (notes.note code).WellFormed := by
  unfold Notes.note
  split
  next room =>
    refine ⟨room, ?_⟩
    intro index inBounds
    simp only [Vector.getElem_set]
    split
    next same =>
      rw [occupied]
      simp [same]
    next different =>
      rw [wellFormed.occupied index inBounds]
      have sameTest : index < notes.k ↔ index < notes.k + 1 := by omega
      simp only [sameTest]
  next => exact wellFormed

/-- A candidate is appended as long as there is room. -/
theorem entries_note (wellFormed : notes.WellFormed) (code : QrCode) :
    (notes.note code).entries = (notes.entries ++ [code]).take 5 := by
  have length := wellFormed.length_entries
  have bound := wellFormed.k_le
  unfold Notes.note
  split
  next room =>
    have whole : (notes.entries ++ [code]).take 5 = notes.entries ++ [code] := by
      apply List.take_of_length_le
      rw [List.length_append, List.length_singleton]
      omega
    rw [whole]
    simp only [Notes.entries, Vector.toList_set]
    rw [List.take_succ_eq_append_getElem (by simpa using room), List.getElem_set_self,
      List.take_set_of_le (le_refl _)]
  next full =>
    have taken : (notes.entries ++ [code]).take 5 = notes.entries := by
      rw [List.take_append_of_le_length (by omega)]
      exact List.take_of_length_le (by omega)
    rw [taken]

/-- A candidate is appended or dropped. -/
theorem entries_note_cases (wellFormed : notes.WellFormed) (code : QrCode) :
    (notes.note code).entries = notes.entries ++ [code] ∨
      (notes.note code).entries = notes.entries := by
  have length := wellFormed.length_entries
  by_cases room : notes.k < 5
  · left
    rw [wellFormed.entries_note, List.take_of_length_le]
    rw [List.length_append, List.length_singleton]
    omega
  · right
    rw [Notes.note_full room]

theorem mem_note (wellFormed : notes.WellFormed) {code other : QrCode}
    (member : other ∈ (notes.note code).entries) :
    other ∈ notes.entries ∨ other = code := by
  rw [wellFormed.entries_note] at member
  rcases List.mem_append.mp (List.mem_of_mem_take member) with old | new
  · exact Or.inl old
  · exact Or.inr (List.mem_singleton.mp new)

theorem foldl_note (wellFormed : notes.WellFormed) {codes : List QrCode}
    (occupied : ∀ code ∈ codes, code.o = true) :
    (codes.foldl Notes.note notes).WellFormed ∧
      (codes.foldl Notes.note notes).entries = (notes.entries ++ codes).take 5 := by
  induction codes generalizing notes with
  | nil =>
      have bound := wellFormed.k_le
      have length := wellFormed.length_entries
      refine ⟨wellFormed, ?_⟩
      rw [List.foldl_nil, List.append_nil, List.take_of_length_le (by omega)]
  | cons code codes ih =>
      have noted := wellFormed.note (occupied code List.mem_cons_self)
      rcases ih noted (fun other member => occupied other (List.mem_cons_of_mem _ member)) with
        ⟨later, entries⟩
      refine ⟨later, ?_⟩
      -- what a full buffer drops at once is also dropped in the end
      have absorbed : ((notes.entries ++ [code]).take 5 ++ codes).take 5 =
          (notes.entries ++ [code] ++ codes).take 5 := by
        by_cases short : (notes.entries ++ [code]).length ≤ 5
        · rw [List.take_of_length_le short]
        · have long : 5 ≤ (notes.entries ++ [code]).length := by omega
          rw [List.take_append_of_le_length (by rw [List.length_take]; omega), List.take_take,
            List.take_append_of_le_length long, Nat.min_self]
      rw [List.foldl_cons, entries, wellFormed.entries_note, absorbed, List.append_assoc,
        List.singleton_append]

/-- The entries in use are the occupied ones. -/
theorem filter_occupied (wellFormed : notes.WellFormed) :
    notes.l1.toList.filter QrCode.o = notes.entries := by
  have bound := wellFormed.k_le
  have used : (notes.l1.toList.take notes.k).filter QrCode.o = notes.entries := by
    apply List.filter_eq_self.mpr
    intro code member
    rcases List.mem_iff_getElem.mp member with ⟨index, inBounds, rfl⟩
    rw [List.length_take, Vector.length_toList] at inBounds
    rw [List.getElem_take, Vector.getElem_toList, wellFormed.occupied index (by omega)]
    exact decide_eq_true (by omega)
  have free : (notes.l1.toList.drop notes.k).filter QrCode.o = [] := by
    apply List.filter_eq_nil_iff.mpr
    intro code member
    rcases List.mem_iff_getElem.mp member with ⟨index, inBounds, rfl⟩
    rw [List.length_drop, Vector.length_toList] at inBounds
    rw [List.getElem_drop, Vector.getElem_toList,
      wellFormed.occupied (notes.k + index) (by omega)]
    simp
  rw [← List.take_append_drop notes.k notes.l1.toList, List.filter_append, used, free,
    List.append_nil]

/-- A search among the occupied entries is a search among the entries in use. -/
theorem any_occupied (wellFormed : notes.WellFormed) (test : QrCode → Bool) :
    (notes.l1.toList.any fun code => code.o && test code) = notes.entries.any test := by
  rw [← wellFormed.filter_occupied, List.any_filter]

/-- A new entry adds its area to the noted areas. -/
theorem inside_note (wellFormed : notes.WellFormed) (room : notes.k < 5) {code : QrCode}
    (occupied : code.o = true) (x y : Int) :
    (notes.note code).insideLeftToRight x y =
      (notes.insideLeftToRight x y ||
        decide (code.x0 ≤ x ∧ x ≤ code.x1 ∧ code.y0 ≤ y ∧ y ≤ code.y3)) := by
  have length := wellFormed.length_entries
  have fits : (notes.entries ++ [code]).length ≤ 5 := by
    rw [List.length_append, List.length_singleton]
    omega
  rw [Notes.insideLeftToRight, Notes.insideLeftToRight, wellFormed.any_occupied,
    (wellFormed.note occupied).any_occupied, wellFormed.entries_note,
    List.take_of_length_le fits, List.any_append, List.any_cons, List.any_nil, Bool.or_false]

end Notes.WellFormed

theorem resetNotes_outside (l1 : Vector QrCode 5) (x y : Int) :
    (resetNotes l1).insideLeftToRight x y = false := by
  rw [Notes.insideLeftToRight, (resetNotes_wellFormed l1).any_occupied, resetNotes_entries,
    List.any_nil]

/-! ## The selection -/

/-- Free entries are never selected. -/
theorem foldl_better_occupied (codes : List QrCode) (best : QrCode) :
    codes.foldl QrCode.better best = (codes.filter QrCode.o).foldl QrCode.better best := by
  induction codes generalizing best with
  | nil => rfl
  | cons code codes ih =>
      cases occupied : code.o with
      | false =>
          have passed : best.better code = best := by simp [QrCode.better, occupied]
          rw [List.foldl_cons, passed, List.filter_cons_of_neg (by simp [occupied]), ih]
      | true =>
          rw [List.filter_cons_of_pos occupied, List.foldl_cons, List.foldl_cons, ih]

/-- The selection among the entries in use. -/
def Notes.best (notes : Notes) (best : QrCode) : QrCode :=
  notes.entries.foldl QrCode.better { best with o := false, dx := 0, f := false }

theorem Notes.WellFormed.selectBest {notes : Notes} (wellFormed : notes.WellFormed)
    (best : QrCode) : selectBest best notes.l1 = notes.best best := by
  rw [ECam.QrPosing.selectBest, foldl_better_occupied, wellFormed.filter_occupied, Notes.best]

/-- The selected entry is the start or an entry, and at least as wide as each of them. -/
theorem foldl_better_spec {codes : List QrCode} (occupied : ∀ code ∈ codes, code.o = true)
    (best : QrCode) :
    (codes.foldl QrCode.better best = best ∨ codes.foldl QrCode.better best ∈ codes) ∧
      best.dx ≤ (codes.foldl QrCode.better best).dx ∧
      ∀ code ∈ codes, code.dx ≤ (codes.foldl QrCode.better best).dx := by
  induction codes generalizing best with
  | nil => exact ⟨Or.inl rfl, le_refl _, fun code member => by cases member⟩
  | cons code codes ih =>
      have wider : best.dx ≤ (best.better code).dx ∧ code.dx ≤ (best.better code).dx ∧
          (best.better code = best ∨ best.better code = code) := by
        simp only [QrCode.better, occupied code List.mem_cons_self, Bool.true_and,
          decide_eq_true_eq]
        split
        next => exact ⟨by omega, le_refl _, Or.inr rfl⟩
        next => exact ⟨le_refl _, by omega, Or.inl rfl⟩
      rcases ih (fun other member => occupied other (List.mem_cons_of_mem _ member))
        (best.better code) with ⟨origin, start, rest⟩
      rw [List.foldl_cons]
      refine ⟨?_, by omega, ?_⟩
      · rcases origin with same | later
        · rw [same]
          rcases wider.2.2 with kept | chosen
          · exact Or.inl kept
          · exact Or.inr (by rw [chosen]; exact List.mem_cons_self)
        · exact Or.inr (List.mem_cons_of_mem _ later)
      · intro other member
        rcases List.mem_cons.mp member with rfl | later
        · omega
        · exact rest other later

/-- Entries that are not wider than the selected one do not replace it. -/
theorem foldl_better_keep {codes : List QrCode} {best : QrCode}
    (narrow : ∀ code ∈ codes, code.dx ≤ best.dx) : codes.foldl QrCode.better best = best := by
  induction codes with
  | nil => rfl
  | cons code codes ih =>
      have kept : best.better code = best := by
        have bound := narrow code List.mem_cons_self
        simp only [QrCode.better, Bool.and_eq_true, decide_eq_true_eq]
        rw [if_neg]
        rintro ⟨_, wider⟩
        omega
      rw [List.foldl_cons, kept]
      exact ih fun other member => narrow other (List.mem_cons_of_mem _ member)

end ECam.QrPosing
