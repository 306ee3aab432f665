import ECam.Library.Copy
import ECam.ImageProcessing.Resize

/-!
# Cropping a frame

The camera program copies a window of 400 by 300 pixels out of the frame; the script
`fast_crop.m` does the same to a stored picture, as a reference.  The program counts from
zero and has the position of the window as constants, the script counts from one and
computes the position from the sizes of the two pictures.
-/

namespace ECam.ImageProcessing

open ECam.Library

/-! ## The camera program -/

/-- `y_offs` and `x_offs`: the position of the window. -/
def yOffs : UInt16 := 450

def xOffs : UInt16 := 600

/-- `x_out` and `y_out`: the size of the window. -/
def xOut : UInt32 := 400

def yOut : UInt32 := 300

/-- `k`: the index of a cell of the window. -/
def cropTarget (y x : UInt16) : UInt32 :=
  y.toUInt32 * xOut + x.toUInt32

/-- `i`: the index in the frame.  All operands are promoted to `int`. -/
def cropOrigin (y x : UInt16) : UInt32 :=
  UInt32.ofNat ((y.toNat + yOffs.toNat) * 1600 + x.toNat + xOffs.toNat)

variable (buf : Nat → UInt8)

/-- The body of the inner loop. -/
def cropPixel (y x : UInt16) : CopyState Nat Nat UInt8 → CopyState Nat Nat UInt8 :=
  copyCell buf (cropOrigin y x).toNat (cropTarget y x).toNat

/-- One row of the window. -/
def cropRow (y : UInt16) (state : CopyState Nat Nat UInt8) : CopyState Nat Nat UInt8 :=
  ((Loop.countedUInt16 xOut.toNat (by decide) (cropPixel buf y)).run (0, state)).2

/-- The CROP function, on the memory that was allocated. -/
def crop (fbCrop : Nat → UInt8) : CopyState Nat Nat UInt8 :=
  ((Loop.countedUInt16 yOut.toNat (by decide) (cropRow buf)).run (0, ⟨fbCrop, [], []⟩)).2

/-- The index in the frame fits an `int`, whatever the counters are. -/
theorem cropOrigin_toNat (y x : UInt16) :
    (cropOrigin y x).toNat = (y.toNat + 450) * 1600 + x.toNat + 600 ∧
      (cropOrigin y x).toNat < 2 ^ 31 := by
  have row := y.toNat_lt
  have column := x.toNat_lt
  have promoted : cropOrigin y x =
      UInt32.ofNat ((y.toNat + 450) * 1600 + x.toNat + 600) := rfl
  rw [promoted, UInt32.toNat_ofNat_of_lt' (by simp only [UInt32.size]; omega)]
  omega

theorem cropTarget_toNat {y x : Nat} (row : y < 300) (column : x < 400) :
    (cropTarget (UInt16.ofNat y) (UInt16.ofNat x)).toNat = y * 400 + x := by
  simp only [cropTarget, xOut, UInt32.toNat_add, UInt32.toNat_mul, UInt16.toNat_toUInt32,
    UInt16.toNat_ofNat', UInt32.toNat_ofNat]
  simp (disch := omega) only [Nat.mod_eq_of_lt]

/-- The pixel of the frame that belongs to a cell of the window. -/
def cropPosition (y x : Nat) : Nat :=
  position (y + 450, x + 600)

theorem crop_copied (buf fbCrop : Nat → UInt8) :
    Copied buf xOut.toNat cropPosition (fun y x => y * 400 + x) (xOut.toNat * yOut.toNat)
      (crop buf fbCrop) := by
  have distinct : Copied.Distinct xOut.toNat (fun y x => y * 400 + x) := .rowMajor 0
  rw [crop]
  refine Copied.countedUInt16 distinct ?_ fbCrop
  intro y row x column
  change y < 300 at row
  change x < 400 at column
  have origin := (cropOrigin_toNat (UInt16.ofNat y) (UInt16.ofNat x)).1
  rw [UInt16.toNat_ofNat_of_lt' (by simp only [UInt16.size]; omega),
    UInt16.toNat_ofNat_of_lt' (by simp only [UInt16.size]; omega)] at origin
  rw [cropPixel, origin, cropTarget_toNat row column, cropPosition, position, Nat.add_assoc]

/-! ## The reference -/

/-- The arrays of `fast_crop.m`.  Their indices start at one. -/
structure FastCrop where
  image1D : CopyState (Nat × Nat) Nat UInt8
  data1D : CopyState Nat Nat UInt8
  data : CopyState Nat (Nat × Nat) UInt8

/-- The dimensions of the input image. -/
def xOri : Nat := 1600

def yOri : Nat := 1200

/-- The dimensions of the output image. -/
def xOutFast : Nat := 400

def yOutFast : Nat := 300

/-- The offsets; both differences are even. -/
def yOffsFast : Nat := (yOri - yOutFast) / 2

def xOffsFast : Nat := (xOri - xOutFast) / 2

/-- An array of zeros. -/
def zeros {Source Target : Type} : CopyState Source Target UInt8 :=
  ⟨fun _ => 0, [], []⟩

variable (image : Nat × Nat → UInt8)

/-- The image as it would be stored in memory. -/
def flatten : CopyState (Nat × Nat) Nat UInt8 :=
  Loop.forRange 1200 (fun y => Loop.forRange 1600 fun x =>
    let k := (y - 1) * 1600 + x
    copyCell image (y, x) k) zeros

/-- Cropping the stored image. -/
def cropFlat (image1D : Nat → UInt8) : CopyState Nat Nat UInt8 :=
  Loop.forRange 300 (fun y => Loop.forRange 400 fun x =>
    let k := (y - 1) * 400 + x
    let i := (y - 1 + yOffsFast) * 1600 + x + xOffsFast
    copyCell image1D i k) zeros

/-- The cropped image as a matrix. -/
def unflatten (data1D : Nat → UInt8) : CopyState Nat (Nat × Nat) UInt8 :=
  Loop.forRange 300 (fun y => Loop.forRange 400 fun x =>
    copyCell data1D ((y - 1) * 400 + x) (y, x)) zeros

/-- The loops of the script. -/
def fastCrop : FastCrop :=
  let image1D := flatten image
  let data1D := cropFlat image1D.output
  ⟨image1D, data1D, unflatten data1D.output⟩

theorem flatten_copied : Copied image 1600 (fun y x => (y + 1, x + 1))
    (fun y x => y * 1600 + (x + 1)) (1600 * 1200) (flatten image) := by
  refine Copied.forRange (.rowMajor 1) ?_ _
  intro y _ x _
  rw [Nat.add_sub_cancel]

theorem cropFlat_copied (image1D : Nat → UInt8) : Copied image1D 400
    (fun y x => cropPosition y x + 1) (fun y x => y * 400 + (x + 1)) (400 * 300)
    (cropFlat image1D) := by
  refine Copied.forRange (.rowMajor 1) ?_ _
  intro y _ x _
  have origin : (y + 450) * 1600 + (x + 1) + 600 = cropPosition y x + 1 := by
    simp only [cropPosition, position]
    omega
  rw [← origin, Nat.add_sub_cancel]
  rfl

theorem unflatten_copied (data1D : Nat → UInt8) : Copied data1D 400
    (fun y x => y * 400 + (x + 1)) (fun y x => (y + 1, x + 1)) (400 * 300)
    (unflatten data1D) := by
  refine Copied.forRange ?_ ?_ _
  · intro row column otherRow otherColumn inRow inOther same
    simp only [Prod.mk.injEq] at same
    omega
  · intro y _ x _
    rw [Nat.add_sub_cancel]

/-! ## Agreement -/

/-- A buffer and a matrix hold the same frame. -/
def SameFrame (buf : Nat → UInt8) (image : Nat × Nat → UInt8) : Prop :=
  ∀ row < 1200, ∀ column < 1600, image (row + 1, column + 1) = buf (position (row, column))

/-- The window that both loops copy: the program and the reference fill the same buffer,
writing each of its cells once and reading inside the frame. -/
structure CropAgrees (buf : Nat → UInt8) (cropped : CopyState Nat Nat UInt8)
    (reference : FastCrop) : Prop where
  buffer : ∀ k < 120000, cropped.output k = reference.data1D.output (k + 1)
  cells : ∀ y < 300, ∀ x < 400, cropped.output (400 * y + x) = buf (position (y + 450, x + 600))
  matrix : ∀ y < 300, ∀ x < 400,
    reference.data.output (y + 1, x + 1) = buf (position (y + 450, x + 600))
  writes : cropped.writes = List.range 120000
  referenceWrites : reference.data1D.writes = List.range' 1 120000
  reads : ∀ index ∈ cropped.reads, index < 1600 * 1200
  referenceReads : ∀ index ∈ reference.data1D.reads, 1 ≤ index ∧ index ≤ 1600 * 1200
  imageReads : ∀ pixel ∈ reference.image1D.reads,
    (1 ≤ pixel.1 ∧ pixel.1 ≤ 1200) ∧ 1 ≤ pixel.2 ∧ pixel.2 ≤ 1600

variable {buf : Nat → UInt8} {image : Nat × Nat → UInt8} {y x : Nat}

theorem crop_cell (buf fbCrop : Nat → UInt8) (row : y < 300) (column : x < 400) :
    (crop buf fbCrop).output (y * 400 + x) = buf (cropPosition y x) :=
  (crop_copied buf fbCrop).cell row column

/-- The window lies inside the frame. -/
theorem cropPosition_lt (row : y < 300) (column : x < 400) : cropPosition y x < 1600 * 1200 := by
  simp only [cropPosition, position]
  omega

/-- The reference reads the pixel of the frame. -/
theorem flatten_cell (same : SameFrame buf image) (row : y < 300) (column : x < 400) :
    (flatten image).output (cropPosition y x + 1) = buf (cropPosition y x) := by
  have stored := (flatten_copied image).cell (show y + 450 < 1200 by omega)
    (show x + 600 < 1600 by omega)
  have index : cropPosition y x + 1 = (y + 450) * 1600 + (x + 600 + 1) := by
    simp only [cropPosition, position]
    omega
  rw [index, stored, same (y + 450) (by omega) (x + 600) (by omega), cropPosition]

theorem fastCrop_cell (same : SameFrame buf image) (row : y < 300) (column : x < 400) :
    (fastCrop image).data1D.output (y * 400 + (x + 1)) = buf (cropPosition y x) := by
  have copied := (cropFlat_copied (flatten image).output).cell row column
  rw [fastCrop, copied, flatten_cell same row column]

/-- For every frame, the program and the reference crop the same window. -/
theorem crop_agrees (fbCrop : Nat → UInt8) (same : SameFrame buf image) :
    CropAgrees buf (crop buf fbCrop) (fastCrop image) where
  buffer := by
    intro k inside
    have row : k / 400 < 300 := by omega
    have column : k % 400 < 400 := by omega
    have program := crop_cell buf fbCrop row column
    have reference := fastCrop_cell same row column
    rw [← Nat.add_assoc, Nat.div_add_mod'] at reference
    rw [Nat.div_add_mod'] at program
    rw [program, reference]
  cells := by
    intro y row x column
    rw [Nat.mul_comm]
    exact crop_cell buf fbCrop row column
  matrix := by
    intro y row x column
    have copied := (unflatten_copied (fastCrop image).data1D.output).cell row column
    rw [fastCrop_cell same row column] at copied
    simp only [fastCrop] at copied ⊢
    rw [copied, cropPosition]
  writes := by
    rw [List.range_eq_range']
    exact (crop_copied buf fbCrop).writes_rowMajor
  referenceWrites := (cropFlat_copied (flatten image).output).writes_rowMajor
  reads := by
    intro index member
    rcases (crop_copied buf fbCrop).exists_of_mem_reads member with
      ⟨y, row, x, column, rfl⟩
    exact cropPosition_lt row column
  referenceReads := by
    intro index member
    rcases (cropFlat_copied (flatten image).output).exists_of_mem_reads member with
      ⟨y, row, x, column, rfl⟩
    have inside := cropPosition_lt row column
    omega
  imageReads := by
    intro pixel member
    rcases (flatten_copied image).exists_of_mem_reads member with ⟨y, row, x, column, rfl⟩
    omega

/-- A frame whose pixels are numbered. -/
theorem crop_agrees_numbered :
    CropAgrees UInt8.ofNat (crop UInt8.ofNat fun _ => 0)
      (fastCrop fun pixel => UInt8.ofNat (position (pixel.1 - 1, pixel.2 - 1))) := by
  apply crop_agrees
  intro row _ column _
  rfl

end ECam.ImageProcessing
