import ECam.Library.Loop

/-!
# Resizing a frame

The camera program averages windows of 8 rows and 16 columns into an image of 96 by 96
cells.  Four nested loops go through the rows and columns of the windows and the pixels of
each window; the index of the cell is advanced by itself, once for each window.  The
counters of the outer loops have 16 bits, all other numbers 32, the width of `size_t` on
the controller.
-/

namespace ECam.ImageProcessing

open ECam.Library

/-! ## The loops -/

/-- `x_out_r` and `y_out_r`: the size of the resized image. -/
def xOutR : UInt32 := 96

def yOutR : UInt32 := 96

/-- `x_wind` and `y_wind`: the size of a window. -/
def xWind : UInt32 := 16

def yWind : UInt32 := 8

/-- `y_rem`: the rows left out at the top. -/
def yRem : UInt16 := 432

/-- The variables of the loops and the memory at `fb_rez`, with a record of the indices
read from the frame, the additions to `pixsum` and the indices written. -/
structure ResizeState where
  pixsum : UInt32
  k : UInt32
  fbRez : Nat → UInt8
  reads : List Nat
  additions : List (UInt32 × UInt8)
  writes : List Nat

/-- A loop with a `size_t` counter. -/
def forSize (bound : UInt32) (body : UInt32 → ResizeState → ResizeState) :
    Loop (UInt32 × ResizeState) :=
  .counted UInt32.toNat (· + 1) bound.toNat (by
    intro counter below
    have limit := bound.toNat_lt
    rw [UInt32.toNat_add, UInt32.toNat_one]
    omega) body

/-- The index in the frame of a pixel of a window. -/
def pixelIndex (yw xw : UInt16) (y x : UInt32) : UInt32 :=
  (yw.toUInt32 * yWind + yRem.toUInt32 + y) * 1600 + xw.toUInt32 * xWind + x

variable (buf : Nat → UInt8)

/-- The body of the innermost loop. -/
def addPixel (yw xw : UInt16) (y x : UInt32) (state : ResizeState) : ResizeState :=
  let i := pixelIndex yw xw y x
  let pixel := buf i.toNat
  { state with
    pixsum := state.pixsum + pixel.toUInt32
    reads := state.reads ++ [i.toNat]
    additions := state.additions ++ [(state.pixsum, pixel)] }

/-- One line of a window. -/
def addLine (yw xw : UInt16) (y : UInt32) (state : ResizeState) : ResizeState :=
  ((forSize xWind (addPixel buf yw xw y)).run (0, state)).2

/-- One window: the sum of its pixels, and the average as the next cell. -/
def averageWindow (yw xw : UInt16) (state : ResizeState) : ResizeState :=
  let summed := ((forSize yWind (addLine buf yw xw)).run (0, { state with pixsum := 0 })).2
  { summed with
    fbRez := Function.update summed.fbRez summed.k.toNat (summed.pixsum >>> 7).toUInt8
    k := summed.k + 1
    writes := summed.writes ++ [summed.k.toNat] }

/-- One row of windows. -/
def averageRow (yw : UInt16) (state : ResizeState) : ResizeState :=
  ((Loop.countedUInt16 xOutR.toNat (by decide) (averageWindow buf yw)).run (0, state)).2

/-- The RESIZE function, on the memory that was allocated. -/
def resize (fbRez : Nat → UInt8) : ResizeState :=
  ((Loop.countedUInt16 yOutR.toNat (by decide) (averageRow buf)).run
    (0, ⟨0, 0, fbRez, [], [], []⟩)).2

/-! ## Rules for the loops -/

section Rules

variable {state : ResizeState}

theorem forSize_invariant {bound : UInt32} {body : UInt32 → ResizeState → ResizeState}
    (property : Nat → ResizeState → Prop) (initially : property 0 state)
    (kept : ∀ index < bound.toNat, ∀ state, property index state →
      property (index + 1) (body (UInt32.ofNat index) state)) :
    property bound.toNat ((forSize bound body).run (0, state)).2 := by
  refine Loop.counted_invariant UInt32.ofNat ?_ ?_ property initially kept
  · intro index inside
    exact UInt32.toNat_ofNat_of_lt' (Nat.lt_of_le_of_lt inside bound.toNat_lt)
  · intro index _
    exact (UInt32.ofNat_add index 1).symm

end Rules

/-! ## Windows -/

/-- The pixels of a window as rows and columns of the frame, in the order of the loops. -/
def linePixels (yw xw y : Nat) : List (Nat × Nat) :=
  (List.range 16).map fun x => (432 + 8 * yw + y, 16 * xw + x)

def windowPixels (yw xw : Nat) : List (Nat × Nat) :=
  (List.range 8).flatMap (linePixels yw xw)

/-- The index in the frame. -/
def position (pixel : Nat × Nat) : Nat :=
  pixel.1 * 1600 + pixel.2

variable {buf}

/-- The computation of the index does not overflow. -/
theorem pixelIndex_toNat {yw xw y x : Nat} (row : yw < 96) (column : xw < 96) (line : y < 8)
    (inLine : x < 16) :
    (pixelIndex (UInt16.ofNat yw) (UInt16.ofNat xw) (UInt32.ofNat y) (UInt32.ofNat x)).toNat =
      position (432 + 8 * yw + y, 16 * xw + x) := by
  simp only [pixelIndex, position, yWind, xWind, yRem, UInt32.toNat_add, UInt32.toNat_mul,
    UInt16.toNat_toUInt32, UInt16.toNat_ofNat', UInt32.toNat_ofNat', UInt32.toNat_ofNat,
    UInt16.toNat_ofNat]
  simp (disch := omega) only [Nat.mod_eq_of_lt]
  omega

/-! ## Sums -/

/-- The sum of the values of some pixels. -/
def pixelSum (buf : Nat → UInt8) (pixels : List (Nat × Nat)) : Nat :=
  (pixels.map fun pixel => (buf (position pixel)).toNat).sum

theorem pixelSum_le (buf : Nat → UInt8) (pixels : List (Nat × Nat)) :
    pixelSum buf pixels ≤ 255 * pixels.length := by
  induction pixels with
  | nil => simp [pixelSum]
  | cons pixel pixels ih =>
      have value := (buf (position pixel)).toNat_lt
      simp only [pixelSum, List.map_cons, List.sum_cons, List.length_cons] at ih ⊢
      omega

/-- An addition to `pixsum` that does not overflow. -/
def WithinRange (addition : UInt32 × UInt8) : Prop :=
  addition.1.toNat + addition.2.toNat < 2 ^ 32

/-- Between two states the given pixels were read and added, and nothing else was
changed. -/
structure Adds (buf : Nat → UInt8) (pixels : List (Nat × Nat))
    (before after : ResizeState) : Prop where
  sum : after.pixsum.toNat = before.pixsum.toNat + pixelSum buf pixels
  reads : after.reads = before.reads ++ pixels.map position
  additions : ∀ addition ∈ after.additions,
    addition ∈ before.additions ∨ WithinRange addition
  k : after.k = before.k
  fbRez : after.fbRez = before.fbRez
  writes : after.writes = before.writes

namespace Adds

variable {before between after : ResizeState} {first second : List (Nat × Nat)}

theorem refl (buf : Nat → UInt8) (state : ResizeState) : Adds buf [] state state where
  sum := rfl
  reads := by simp
  additions := fun _ member => Or.inl member
  k := rfl
  fbRez := rfl
  writes := rfl

theorem trans (left : Adds buf first before between) (right : Adds buf second between after) :
    Adds buf (first ++ second) before after where
  sum := by
    rw [right.sum, left.sum, pixelSum, pixelSum, pixelSum, List.map_append, List.sum_append]
    omega
  reads := by rw [right.reads, left.reads, List.map_append, List.append_assoc]
  additions := by
    intro addition member
    rcases right.additions addition member with earlier | inRange
    · exact left.additions addition earlier
    · exact Or.inr inRange
  k := right.k.trans left.k
  fbRez := right.fbRez.trans left.fbRez
  writes := right.writes.trans left.writes

end Adds

theorem addPixel_adds {yw xw y x : Nat} (row : yw < 96) (column : xw < 96) (line : y < 8)
    (inLine : x < 16) {state : ResizeState} (room : state.pixsum.toNat < 2 ^ 31) :
    Adds buf [(432 + 8 * yw + y, 16 * xw + x)] state
      (addPixel buf (UInt16.ofNat yw) (UInt16.ofNat xw) (UInt32.ofNat y) (UInt32.ofNat x)
        state) := by
  have index := pixelIndex_toNat row column line inLine
  have value := (buf (position (432 + 8 * yw + y, 16 * xw + x))).toNat_lt
  constructor
  · simp only [addPixel, index, UInt32.toNat_add, UInt8.toNat_toUInt32, pixelSum,
      List.map_cons, List.map_nil, List.sum_cons, List.sum_nil]
    omega
  · simp only [addPixel, index, List.map_cons, List.map_nil]
  · intro addition member
    simp only [addPixel, index, List.mem_append, List.mem_singleton] at member
    rcases member with earlier | rfl
    · exact Or.inl earlier
    · right
      unfold WithinRange
      simp only
      omega
  · rfl
  · rfl
  · rfl

theorem addLine_adds {yw xw y : Nat} (row : yw < 96) (column : xw < 96) (line : y < 8)
    {state : ResizeState} (room : state.pixsum.toNat < 2 ^ 30) :
    Adds buf (linePixels yw xw y) state
      (addLine buf (UInt16.ofNat yw) (UInt16.ofNat xw) (UInt32.ofNat y) state) := by
  have pixels : linePixels yw xw y = (List.range xWind.toNat).map fun x =>
      (432 + 8 * yw + y, 16 * xw + x) := rfl
  rw [pixels, addLine]
  refine forSize_invariant (fun index after =>
    Adds buf ((List.range index).map fun x => (432 + 8 * yw + y, 16 * xw + x)) state after)
    (.refl buf state) ?_
  intro x inLine after added
  change x < 16 at inLine
  rw [List.range_succ, List.map_append]
  apply added.trans
  apply addPixel_adds row column line inLine
  have bound := pixelSum_le buf ((List.range x).map fun x => (432 + 8 * yw + y, 16 * xw + x))
  rw [List.length_map, List.length_range] at bound
  rw [added.sum]
  omega

theorem length_linePixels (yw xw y : Nat) : (linePixels yw xw y).length = 16 := by
  simp [linePixels]

theorem length_flatMap_linePixels (yw xw count : Nat) :
    ((List.range count).flatMap (linePixels yw xw)).length = count * 16 := by
  simp [List.length_flatMap, length_linePixels]

/-- The loops over a window add its pixels. -/
theorem window_adds {yw xw : Nat} (row : yw < 96) (column : xw < 96) (state : ResizeState)
    (reset : state.pixsum = 0) :
    Adds buf (windowPixels yw xw) state
      ((forSize yWind (addLine buf (UInt16.ofNat yw) (UInt16.ofNat xw))).run (0, state)).2 := by
  have pixels : windowPixels yw xw = (List.range yWind.toNat).flatMap (linePixels yw xw) := rfl
  rw [pixels]
  refine forSize_invariant (fun index after =>
    Adds buf ((List.range index).flatMap (linePixels yw xw)) state after) (.refl buf state) ?_
  intro y line after added
  change y < 8 at line
  rw [List.range_succ, List.flatMap_append, List.flatMap_singleton]
  apply added.trans
  apply addLine_adds row column line
  have bound := pixelSum_le buf ((List.range y).flatMap (linePixels yw xw))
  rw [length_flatMap_linePixels] at bound
  rw [added.sum, reset, UInt32.toNat_zero]
  omega

theorem pixelSum_window_lt (buf : Nat → UInt8) (yw xw : Nat) :
    pixelSum buf (windowPixels yw xw) < 128 * 256 := by
  have bound := pixelSum_le buf (windowPixels yw xw)
  rw [windowPixels, length_flatMap_linePixels] at bound
  rw [windowPixels]
  omega

/-! ## Cells -/

/-- The first cells are written, row by row: each of them once, with the average of its
window, from pixels that were read in order and added without overflow. -/
structure Resized (buf : Nat → UInt8) (count : Nat) (state : ResizeState) : Prop where
  k : state.k.toNat = count
  writes : state.writes = List.range count
  cells : ∀ cell < count, (state.fbRez cell).toNat =
    pixelSum buf (windowPixels (cell / 96) (cell % 96)) / 128
  reads : state.reads = (List.range count).flatMap fun cell =>
    (windowPixels (cell / 96) (cell % 96)).map position
  additions : ∀ addition ∈ state.additions, WithinRange addition

/-- Shifting by seven bits divides by the number of pixels. -/
theorem average_toNat {pixsum : UInt32} (small : pixsum.toNat < 128 * 256) :
    (pixsum >>> 7).toUInt8.toNat = pixsum.toNat / 128 := by
  rw [UInt32.toNat_toUInt8, UInt32.toNat_shiftRight, Nat.shiftRight_eq_div_pow]
  change pixsum.toNat / 128 % 256 = pixsum.toNat / 128
  omega

/-- Cells are numbered row by row. -/
theorem windowPixels_cell (yw : Nat) {xw : Nat} (column : xw < 96) :
    windowPixels ((96 * yw + xw) / 96) ((96 * yw + xw) % 96) = windowPixels yw xw := by
  have quotient : (96 * yw + xw) / 96 = yw := by omega
  have remainder : (96 * yw + xw) % 96 = xw := by omega
  rw [quotient, remainder]

/-- Storing the average of the next window. -/
theorem Resized.store {count : Nat} {state summed : ResizeState}
    (resized : Resized buf count state) (inside : count < 9216)
    (added : Adds buf (windowPixels (count / 96) (count % 96)) { state with pixsum := 0 } summed) :
    Resized buf (count + 1) { summed with
      fbRez := Function.update summed.fbRez summed.k.toNat (summed.pixsum >>> 7).toUInt8
      k := summed.k + 1
      writes := summed.writes ++ [summed.k.toNat] } := by
  have next : summed.k.toNat = count := by rw [added.k, resized.k]
  have total : summed.pixsum.toNat = pixelSum buf (windowPixels (count / 96) (count % 96)) := by
    rw [added.sum, UInt32.toNat_zero, Nat.zero_add]
  have small := pixelSum_window_lt buf (count / 96) (count % 96)
  constructor
  · rw [UInt32.toNat_add, UInt32.toNat_one, next]
    omega
  · rw [added.writes, resized.writes, next, List.range_succ]
  · intro cell written
    simp only [next]
    by_cases last : cell = count
    · rw [last, Function.update_self, average_toNat (by omega), total]
    · rw [Function.update_of_ne last, added.fbRez]
      exact resized.cells cell (by omega)
  · rw [added.reads, resized.reads, List.range_succ, List.flatMap_append,
      List.flatMap_singleton]
  · intro addition member
    rcases added.additions addition member with earlier | inRange
    · exact resized.additions addition earlier
    · exact inRange

theorem averageWindow_resized {yw xw : Nat} (row : yw < 96) (column : xw < 96)
    {state : ResizeState} (resized : Resized buf (96 * yw + xw) state) :
    Resized buf (96 * yw + xw + 1)
      (averageWindow buf (UInt16.ofNat yw) (UInt16.ofNat xw) state) := by
  apply resized.store (by omega)
  rw [windowPixels_cell yw column]
  exact window_adds row column { state with pixsum := 0 } rfl

theorem averageRow_resized {yw : Nat} (row : yw < 96) {state : ResizeState}
    (resized : Resized buf (96 * yw) state) :
    Resized buf (96 * (yw + 1)) (averageRow buf (UInt16.ofNat yw) state) := by
  have count : 96 * (yw + 1) = 96 * yw + xOutR.toNat := rfl
  rw [count, averageRow]
  refine Loop.countedUInt16_invariant (fun index after => Resized buf (96 * yw + index) after) resized ?_
  intro xw column after before
  exact averageWindow_resized row column before

/-- The loops write all cells. -/
theorem resize_resized (buf fbRez : Nat → UInt8) : Resized buf 9216 (resize buf fbRez) := by
  have start : Resized buf (96 * 0) ⟨0, 0, fbRez, [], [], []⟩ := by
    constructor <;> simp
  have count : 9216 = 96 * yOutR.toNat := rfl
  rw [count, resize]
  refine Loop.countedUInt16_invariant (fun index after => Resized buf (96 * index) after) start ?_
  intro yw row after before
  exact averageRow_resized row before

/-! ## The image -/

/-- The pixels of the window of a cell, by rows and columns. -/
def window (yw xw : Nat) : Finset (Nat × Nat) :=
  Finset.Ico (432 + 8 * yw) (432 + 8 * yw + 8) ×ˢ Finset.Ico (16 * xw) (16 * xw + 16)

theorem mem_window {yw xw : Nat} {pixel : Nat × Nat} :
    pixel ∈ window yw xw ↔ (432 + 8 * yw ≤ pixel.1 ∧ pixel.1 < 432 + 8 * yw + 8) ∧
      16 * xw ≤ pixel.2 ∧ pixel.2 < 16 * xw + 16 := by
  simp [window]

theorem mem_windowPixels {yw xw : Nat} {pixel : Nat × Nat} :
    pixel ∈ windowPixels yw xw ↔ pixel ∈ window yw xw := by
  rw [mem_window]
  simp only [windowPixels, linePixels, List.mem_flatMap, List.mem_map, List.mem_range]
  constructor
  · rintro ⟨y, line, x, inLine, rfl⟩
    simp only
    omega
  · rintro ⟨⟨top, bottom⟩, left, right⟩
    refine ⟨pixel.1 - (432 + 8 * yw), by omega, pixel.2 - 16 * xw, by omega, ?_⟩
    ext
    · simp only
      omega
    · simp only
      omega

theorem pixelSum_windowPixels (buf : Nat → UInt8) (yw xw : Nat) :
    pixelSum buf (windowPixels yw xw) =
      ∑ pixel ∈ window yw xw, (buf (position pixel)).toNat := by
  have line : ∀ y, pixelSum buf (linePixels yw xw y) =
      ∑ x ∈ Finset.range 16, (buf (position (432 + 8 * yw + y, 16 * xw + x))).toNat := by
    intro y
    rw [pixelSum, linePixels, List.map_map]
    rfl
  have lines : pixelSum buf (windowPixels yw xw) =
      ∑ y ∈ Finset.range 8, pixelSum buf (linePixels yw xw y) := by
    rw [pixelSum, windowPixels, List.map_flatMap, List.flatMap, List.sum_flatten, List.map_map]
    rfl
  rw [lines, window, Finset.sum_product, Finset.sum_Ico_eq_sum_range, Nat.add_sub_cancel_left]
  apply Finset.sum_congr rfl
  intro y _
  rw [line, Finset.sum_Ico_eq_sum_range, Nat.add_sub_cancel_left]

/-- The result of the loops: they read inside the frame, do not overflow, write each cell
once and store the average of its window. -/
structure WindowAverages (buf : Nat → UInt8) (result : ResizeState) : Prop where
  reads : ∀ index ∈ result.reads, index < 1600 * 1200
  additions : ∀ addition ∈ result.additions, WithinRange addition
  writes : result.writes = List.range 9216
  cells : ∀ yw < 96, ∀ xw < 96, (result.fbRez (96 * yw + xw)).toNat =
    (∑ pixel ∈ window yw xw, (buf (position pixel)).toNat) / 128

theorem Resized.windowAverages {result : ResizeState} (resized : Resized buf 9216 result) :
    WindowAverages buf result where
  reads := by
    intro index member
    rw [resized.reads] at member
    simp only [List.mem_flatMap, List.mem_map, List.mem_range] at member
    rcases member with ⟨cell, inside, pixel, inWindow, rfl⟩
    rw [mem_windowPixels, mem_window] at inWindow
    unfold position
    omega
  additions := resized.additions
  writes := resized.writes
  cells := by
    intro yw row xw column
    rw [resized.cells (96 * yw + xw) (by omega), windowPixels_cell yw column,
      pixelSum_windowPixels]

theorem card_window (yw xw : Nat) : (window yw xw).card = 128 := by
  rw [window, Finset.card_product, Nat.card_Ico, Nat.card_Ico, Nat.add_sub_cancel_left,
    Nat.add_sub_cancel_left]

/-- A pixel lies in at most one window. -/
theorem window_unique {yw xw otherYw otherXw : Nat} {pixel : Nat × Nat}
    (inWindow : pixel ∈ window yw xw) (inOther : pixel ∈ window otherYw otherXw) :
    yw = otherYw ∧ xw = otherXw := by
  rw [mem_window] at inWindow inOther
  omega

/-- The windows of the cells cover the lower rows of the frame, except for its last
columns. -/
theorem exists_window_iff (pixel : Nat × Nat) :
    (∃ yw < 96, ∃ xw < 96, pixel ∈ window yw xw) ↔
      (432 ≤ pixel.1 ∧ pixel.1 ≤ 1199) ∧ pixel.2 ≤ 1535 := by
  constructor
  · rintro ⟨yw, row, xw, column, inWindow⟩
    rw [mem_window] at inWindow
    omega
  · rintro ⟨⟨top, bottom⟩, right⟩
    refine ⟨(pixel.1 - 432) / 8, by omega, pixel.2 / 16, by omega, ?_⟩
    rw [mem_window]
    omega

/-- For every frame and every memory, the loops average the windows; these have 128 pixels
each, are disjoint and cover rows 432 to 1199 and columns 0 to 1535. -/
theorem resize_windowAverages (buf fbRez : Nat → UInt8) :
    WindowAverages buf (resize buf fbRez) ∧
      (∀ yw xw, (window yw xw).card = 128) ∧
      (∀ yw xw otherYw otherXw, (yw, xw) ≠ (otherYw, otherXw) →
        Disjoint (window yw xw) (window otherYw otherXw)) ∧
      (Finset.range 96 ×ˢ Finset.range 96).biUnion (fun cell => window cell.1 cell.2) =
        Finset.Icc 432 1199 ×ˢ Finset.Icc 0 1535 := by
  refine ⟨(resize_resized buf fbRez).windowAverages, card_window, ?_, ?_⟩
  · intro yw xw otherYw otherXw different
    rw [Finset.disjoint_left]
    intro pixel inWindow inOther
    rcases window_unique inWindow inOther with ⟨rows, columns⟩
    exact different (by rw [rows, columns])
  · ext pixel
    have covered := exists_window_iff pixel
    simp only [Finset.mem_biUnion, Finset.mem_product, Finset.mem_range, Finset.mem_Icc]
    constructor
    · rintro ⟨cell, ⟨row, column⟩, inWindow⟩
      have inside := covered.mp ⟨cell.1, row, cell.2, column, inWindow⟩
      exact ⟨inside.1, Nat.zero_le _, inside.2⟩
    · rintro ⟨rows, _, columns⟩
      rcases covered.mpr ⟨rows, columns⟩ with ⟨yw, row, xw, column, inWindow⟩
      exact ⟨(yw, xw), ⟨row, column⟩, inWindow⟩

end ECam.ImageProcessing
