import ECam.Library.Copy
import ECam.ImageProcessing.Resize

/-!
# Turning a stream into an image file

The script `imagedata2file.m` takes the bytes of a resized image, in the order in which
the camera program stores them, and fills a matrix with them.  Its loops go through the
image row by row, but the matrix is addressed with the column first, so that what is
written to the file is the transposed image.
-/

namespace ECam.ImageProcessing

open ECam.Library

/-! ## The script -/

/-- The image dimensions. -/
def imageWidth : Nat := 96

def imageHeight : Nat := 96

/-- The variables of the reordering loop: `img_2D` and `data_index`. -/
structure ReorderState where
  img2D : CopyState Nat (Nat × Nat) UInt8
  dataIndex : Nat

/-- `image_string(index)`; indices start at one. -/
def element (imageString : List UInt8) (index : Nat) : UInt8 :=
  imageString.getD (index - 1) 0

/-- The body of the inner loop. -/
def reorderPixel (imageString : List UInt8) (y x : Nat) (state : ReorderState) :
    ReorderState where
  img2D := copyCell (element imageString) state.dataIndex (x, y) state.img2D
  dataIndex := state.dataIndex + 1

/-- The reordering loop, from an empty matrix and the first byte on. -/
def reorder (imageString : List UInt8) : ReorderState :=
  Loop.forRange imageHeight (fun y => Loop.forRange imageWidth (reorderPixel imageString y))
    ⟨⟨fun _ => 0, [], []⟩, 1⟩

/-- The image that is written to the file, unless the dimensions do not match the data. -/
def imagedata2file (imageString : List UInt8) : Option (CopyState Nat (Nat × Nat) UInt8) :=
  if imageHeight * imageWidth ≠ imageString.length then
    none
  else
    some (reorder imageString).img2D

/-! ## What the loops store -/

/-- The first bytes are stored, and the next one is up. -/
def Reordered (imageString : List UInt8) (count : Nat) (state : ReorderState) : Prop :=
  Copied (element imageString) 96 (fun y x => 96 * y + x + 1) (fun y x => (x + 1, y + 1)) count
    state.img2D ∧ state.dataIndex = count + 1

variable {imageString : List UInt8}

theorem Reordered.pixel {y x : Nat} {state : ReorderState} (column : x < 96)
    (reordered : Reordered imageString (96 * y + x) state) :
    Reordered imageString (96 * y + x + 1)
      (reorderPixel imageString (y + 1) (x + 1) state) := by
  rcases reordered with ⟨copied, index⟩
  have distinct : Copied.Distinct 96 (fun y x => (x + 1, y + 1)) := by
    intro row column otherRow otherColumn _ _ same
    simp only [Prod.mk.injEq] at same
    omega
  constructor
  · rw [reorderPixel, index]
    exact copied.next column (distinct.fresh column)
  · rw [reorderPixel, index]

theorem reorder_reordered (imageString : List UInt8) :
    Reordered imageString (96 * 96) (reorder imageString) := by
  have start : Reordered imageString (96 * 0) ⟨⟨fun _ => 0, [], []⟩, 1⟩ := ⟨.start _, rfl⟩
  have count : 96 * 96 = 96 * imageHeight := rfl
  rw [count, reorder]
  refine Loop.forRange_invariant (fun y => Reordered imageString (96 * y)) start ?_
  intro y _ state before
  refine Loop.forRange_invariant (fun x => Reordered imageString (96 * y + x)) before ?_
  intro x column state reordered
  exact reordered.pixel column

/-- A stream of the right length is stored completely, with the column first. -/
theorem imagedata2file_transposed (size : imageString.length = 96 * 96) :
    ∃ image, imagedata2file imageString = some image ∧
      image.reads = List.range' 1 (96 * 96) ∧
      ∀ r < 96, ∀ c < 96, imageString[96 * c + r]? = some (image.output (r + 1, c + 1)) := by
  have matching : ¬imageHeight * imageWidth ≠ imageString.length := by
    rw [size]
    decide
  have copied := (reorder_reordered imageString).1
  refine ⟨_, if_neg matching, ?_, ?_⟩
  · rw [copied.reads, List.range'_eq_map_range]
    apply List.map_congr_left
    intro cell _
    omega
  · intro r inColumn c inRow
    have inside : 96 * c + r < imageString.length := by
      rw [size]
      omega
    rw [copied.cell inRow inColumn, element, Nat.add_sub_cancel, List.getD_eq_getElem?_getD,
      List.getElem?_eq_getElem inside, Option.getD_some]

/-! ## Orientation -/

/-- The pixel at each row and column is the byte at its place in a stream row by row. -/
def KeepsOrientation (imageString : List UInt8) (image : CopyState Nat (Nat × Nat) UInt8) :
    Prop :=
  ∀ r < 96, ∀ c < 96, imageString[96 * r + c]? = some (image.output (r + 1, c + 1))

/-- The picture is its own mirror image on the diagonal. -/
def DiagonallySymmetric (imageString : List UInt8) : Prop :=
  ∀ r < 96, ∀ c < 96, imageString[96 * r + c]? = imageString[96 * c + r]?

/-- The orientation of an image is kept exactly if it is symmetric. -/
theorem imagedata2file_orientation_iff (size : imageString.length = 96 * 96) :
    ∃ image, imagedata2file imageString = some image ∧
      (KeepsOrientation imageString image ↔ DiagonallySymmetric imageString) := by
  rcases imagedata2file_transposed size with ⟨image, written, _, transposed⟩
  refine ⟨image, written, ?_⟩
  constructor
  · intro kept r inColumn c inRow
    rw [kept r inColumn c inRow, transposed r inColumn c inRow]
  · intro symmetric r inColumn c inRow
    rw [symmetric r inColumn c inRow, transposed r inColumn c inRow]

/-- A single bright pixel in the corner. -/
theorem imagedata2file_orientation_corner :
    ∃ image, imagedata2file ((List.replicate 9216 0).set 0 255) = some image ∧
      (KeepsOrientation ((List.replicate 9216 0).set 0 255) image ↔
        DiagonallySymmetric ((List.replicate 9216 0).set 0 255)) := by
  apply imagedata2file_orientation_iff
  rw [List.length_set, List.length_replicate]

/-- A bright pixel in the first row comes out in the first column. -/
theorem imagedata2file_turned :
    ¬∃ image, imagedata2file ((List.replicate 9216 0).set 1 255) = some image ∧
      KeepsOrientation ((List.replicate 9216 0).set 1 255) image := by
  rintro ⟨image, written, kept⟩
  have size : ((List.replicate 9216 (0 : UInt8)).set 1 255).length = 96 * 96 := by
    rw [List.length_set, List.length_replicate]
  rcases imagedata2file_transposed size with ⟨other, otherWritten, _, transposed⟩
  rw [written, Option.some.injEq] at otherWritten
  have first := kept 0 (by decide) 1 (by decide)
  have second := transposed 0 (by decide) 1 (by decide)
  have bright : 1 < (List.replicate 9216 (0 : UInt8)).length := by
    rw [List.length_replicate]
    decide
  rw [← otherWritten, ← first, List.getElem?_set_ne (by decide), List.getElem?_set_self bright,
    List.getElem?_replicate, if_pos (by decide)] at second
  cases second

/-! ## Resized frames -/

/-- The image that RESIZE has stored. -/
def resizedStream (buf fbRez : Nat → UInt8) : List UInt8 :=
  (List.range 9216).map (resize buf fbRez).fbRez

/-- A resized frame comes out with the windows in the places of each other's. -/
theorem imagedata2file_resize (buf fbRez : Nat → UInt8) :
    ∃ image, imagedata2file (resizedStream buf fbRez) = some image ∧
      ∀ r < 96, ∀ c < 96, (image.output (r + 1, c + 1)).toNat =
        (∑ pixel ∈ window c r, (buf (position pixel)).toNat) / 128 := by
  have size : (resizedStream buf fbRez).length = 96 * 96 := by
    rw [resizedStream, List.length_map, List.length_range]
  rcases imagedata2file_transposed size with ⟨image, written, _, transposed⟩
  refine ⟨image, written, ?_⟩
  intro r inColumn c inRow
  have pixel := transposed r inColumn c inRow
  rw [resizedStream, List.getElem?_map, List.getElem?_range (by omega), Option.map_some,
    Option.some.injEq] at pixel
  rw [← pixel]
  exact (resize_resized buf fbRez).windowAverages.cells c inRow r inColumn

end ECam.ImageProcessing
