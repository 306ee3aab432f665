import ECam.Library.Loop

/-!
# Frames and their conversion to black and white

A frame is a picture of 240 by 240 RGB565 words, stored row by row.  The detector
first converts it into the static buffer `PureBOrW`, whose words are `65535` for a
bright pixel and `0` for any other.
-/

namespace ECam.QrPosing

open ECam.Library

/-- The words of a 240 by 240 picture, row by row. -/
abbrev Frame := Vector UInt16 57600

/-- The brightness test on one RGB565 word. -/
def isBright (word : UInt16) : Bool :=
  decide ((word >>> 11) &&& 0b11111 > 24) && decide ((word >>> 5) &&& 0b111111 > 50) &&
    decide (word &&& 0b11111 > 24)

/-- The converted word. -/
def pureWord (word : UInt16) : UInt16 :=
  if isBright word then 65535 else 0

theorem pureWord_ne_zero (word : UInt16) : (pureWord word != 0) = isBright word := by
  unfold pureWord
  cases isBright word <;> rfl

/-! ## The conversion loops -/

/-- The loop over the pixels of one row. -/
def convertRow (oFrame : Frame) (y : Nat) (inRange : y < 240) : Loop (Nat × Frame) where
  body := fun (x, pureBOrW) =>
    if inRow : x < 240 then
      some (x + 1, pureBOrW.set (y * 240 + x) (pureWord oFrame[y * 240 + x]))
    else
      none
  measure := fun (x, _) => 240 - x
  decreases := by
    rintro ⟨x, pureBOrW⟩ next continued
    simp only at continued
    split at continued
    next inRow =>
      cases continued
      change 240 - (x + 1) < 240 - x
      omega
    next => cases continued

/-- The loop over the rows. -/
def convertRows (oFrame : Frame) : Loop (Nat × Frame) where
  body := fun (y, pureBOrW) =>
    if inRange : y < 240 then
      some (y + 1, ((convertRow oFrame y inRange).run (0, pureBOrW)).2)
    else
      none
  measure := fun (y, _) => 240 - y
  decreases := by
    rintro ⟨y, pureBOrW⟩ next continued
    simp only at continued
    split at continued
    next inRange =>
      cases continued
      change 240 - (y + 1) < 240 - y
      omega
    next => cases continued

/-- The content of `PureBOrW` after the conversion, which overwrites what was there. -/
def convertFrame (oFrame pureBOrW : Frame) : Frame :=
  ((convertRows oFrame).run (0, pureBOrW)).2

/-! ## What the conversion leaves -/

/-- The words below `count` are converted. -/
def Converted (oFrame : Frame) (count : Nat) (pureBOrW : Frame) : Prop :=
  ∀ (index : Nat) (inBounds : index < 57600), index < count →
    pureBOrW[index] = pureWord oFrame[index]

theorem Converted.set {oFrame pureBOrW : Frame} {count : Nat}
    (converted : Converted oFrame count pureBOrW) (inBounds : count < 57600) :
    Converted oFrame (count + 1) (pureBOrW.set count (pureWord oFrame[count])) := by
  intro index indexInBounds below
  rw [Vector.getElem_set]
  split
  next equal =>
    subst equal
    rfl
  next different => exact converted index indexInBounds (by omega)

theorem convertRow_converted {oFrame pureBOrW : Frame} {y : Nat} (inRange : y < 240)
    (converted : Converted oFrame (y * 240) pureBOrW) :
    Converted oFrame ((y + 1) * 240) ((convertRow oFrame y inRange).run (0, pureBOrW)).2 := by
  have kept : ∀ state next : Nat × Frame,
      (state.1 ≤ 240 ∧ Converted oFrame (y * 240 + state.1) state.2) →
      (convertRow oFrame y inRange).body state = some next →
      next.1 ≤ 240 ∧ Converted oFrame (y * 240 + next.1) next.2 := by
    rintro ⟨x, buffer⟩ next ⟨_, before⟩ continued
    simp only [convertRow] at continued
    split at continued
    next inRow =>
      simp only [Option.some.injEq] at continued
      rw [← continued]
      refine ⟨Nat.succ_le_of_lt inRow, ?_⟩
      have extended := before.set (by omega)
      rwa [Nat.add_assoc] at extended
    next => cases continued
  have initially : ((0, pureBOrW) : Nat × Frame).1 ≤ 240 ∧
      Converted oFrame (y * 240 + ((0, pureBOrW) : Nat × Frame).1) pureBOrW :=
    ⟨Nat.zero_le _, converted⟩
  have final := Loop.run_invariant kept initially
  have ended := (convertRow oFrame y inRange).body_run (0, pureBOrW)
  generalize (convertRow oFrame y inRange).run (0, pureBOrW) = last at final ended
  simp only [convertRow] at ended
  split at ended
  next => cases ended
  next pastEnd =>
    have position : y * 240 + last.1 = (y + 1) * 240 := by
      have bound := final.1
      omega
    rw [← position]
    exact final.2

/-- The rows before the current one are converted. -/
def RowsConverted (oFrame : Frame) (state : Nat × Frame) : Prop :=
  state.1 ≤ 240 ∧ Converted oFrame (state.1 * 240) state.2

theorem RowsConverted.step {oFrame : Frame} {state next : Nat × Frame}
    (before : RowsConverted oFrame state)
    (continued : (convertRows oFrame).body state = some next) :
    RowsConverted oFrame next := by
  rcases state with ⟨y, buffer⟩
  simp only [convertRows] at continued
  split at continued
  next inRange =>
    have row := convertRow_converted inRange before.2
    -- the row loop must stay folded, or its iterations are unrolled here
    generalize ((convertRow oFrame y inRange).run (0, buffer)).2 = rowBuffer at row continued
    cases continued
    exact ⟨Nat.succ_le_of_lt inRange, row⟩
  next => cases continued

theorem rowsConverted_initially (oFrame pureBOrW : Frame) :
    RowsConverted oFrame (0, pureBOrW) := by
  refine ⟨Nat.zero_le _, ?_⟩
  intro index _ below
  omega

/-- When the loop over the rows is left, every word is converted. -/
theorem RowsConverted.finished {oFrame : Frame} {last : Nat × Frame}
    (rows : RowsConverted oFrame last) (ended : (convertRows oFrame).body last = none) :
    last.2 = oFrame.map pureWord := by
  simp only [convertRows] at ended
  split at ended
  next => cases ended
  next pastEnd =>
    apply Vector.ext
    intro index inBounds
    rw [Vector.getElem_map]
    apply rows.2 index inBounds
    have bound := rows.1
    omega

/-- The conversion depends on the frame only. -/
theorem convertFrame_eq (oFrame pureBOrW : Frame) :
    convertFrame oFrame pureBOrW = oFrame.map pureWord := by
  have rows : RowsConverted oFrame ((convertRows oFrame).run (0, pureBOrW)) :=
    Loop.run_invariant (fun _ _ => RowsConverted.step) (rowsConverted_initially _ _)
  exact rows.finished (Loop.body_run _ _)

/-! ## Reading pixels -/

/-- Reading the buffer as memory: outside its 57600 words there is `0`. -/
def readWord (pureBOrW : Frame) (index : Int) : UInt16 :=
  if inBounds : 0 ≤ index ∧ index < 57600 then
    pureBOrW.get ⟨index.toNat, by omega⟩
  else
    0

/-! ## Frames in black and white -/

/-- A frame that shows a picture, given by row and column. -/
def pictureFrame (picture : Int → Int → Bool) : Frame :=
  Vector.ofFn fun index =>
    if picture (index / 240 : Nat) (index % 240 : Nat) then 65535 else 0

/-- The words of that frame after the conversion, by linear index. -/
def pictureWord (picture : Int → Int → Bool) (index : Int) : UInt16 :=
  if 0 ≤ index ∧ index < 57600 ∧ picture (index / 240) (index % 240) then 65535 else 0

theorem readWord_pictureFrame (picture : Int → Int → Bool) :
    readWord ((pictureFrame picture).map pureWord) = pictureWord picture := by
  funext index
  unfold readWord pictureWord
  split
  next inBounds =>
    have row : ((index.toNat / 240 : Nat) : Int) = index / 240 := by omega
    have column : ((index.toNat % 240 : Nat) : Int) = index % 240 := by omega
    have bound : index.toNat < 57600 := by omega
    have word : ((pictureFrame picture).map pureWord)[index.toNat] =
        pureWord (if picture (index / 240) (index % 240) then 65535 else 0) := by
      rw [Vector.getElem_map, pictureFrame, Vector.getElem_ofFn, row, column]
    change ((pictureFrame picture).map pureWord)[index.toNat] = _
    rw [word]
    cases picture (index / 240) (index % 240) with
    | false => simp [pureWord, isBright]
    | true =>
        simp only [inBounds, if_true, and_self]
        decide
  next outside =>
    rw [if_neg]
    rintro ⟨lower, upper, _⟩
    exact outside ⟨lower, upper⟩

end ECam.QrPosing
