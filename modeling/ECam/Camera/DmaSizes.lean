import ECam.Library.Loop
import ECam.ImageProcessing.SampleMode

/-!
# The sizes of the DMA buffers

The camera driver receives a frame in pieces.  The hardware fills nodes of at most 4092
bytes and raises an interrupt after each half of the receive buffer; a half consists of
whole nodes and of whole lines of the picture.  `ll_cam_calc_rgb_dma` searches for sizes
with which a frame is a whole number of halves.

All sizes are numbers of bytes; none of them exceeds the 32 bits of `size_t`.
-/

namespace ECam.Camera

open ECam.Library
open ECam.ImageProcessing

/-! ## The searches -/

/-- `LCD_CAM_DMA_NODE_BUFFER_MAX_SIZE`. -/
def lcdCamDmaNodeBufferMaxSize : Nat := 4092

/-- How the computation can fail: by an integer division by zero, or with the answer that
the resolution is too high. -/
inductive DmaError where
  | divisionByZero
  | resolutionTooHigh
  deriving DecidableEq, Repr

/-- The loop over `i` for long lines: the first size below `i` that divides the line. -/
def divisorNode (lineWidth : Nat) : Nat → Option Nat
  | 0 => none
  | i + 1 => if lineWidth % (i + 1) = 0 then some (i + 1) else divisorNode lineWidth i

/-- The loop over `i` for short lines: the first size below `i` that is a number of lines. -/
def multipleNode (lineWidth : Nat) : Nat → Option Nat
  | 0 => none
  | i + 1 => if (i + 1) % lineWidth = 0 then some (i + 1) else multipleNode lineWidth i

/-- The inner `while` loop: fewer lines in a node until the height is a multiple of them.
The node size is computed anew in every iteration. -/
def fitLinesPerNode (height lineWidth : Nat) : (linesPerNode nodeSize : Nat) →
    Except DmaError Nat
  | 0, _ => .error .divisionByZero
  | lines + 1, nodeSize =>
      if height % (lines + 1) = 0 then
        .ok nodeSize
      else
        fitLinesPerNode height lineWidth lines (lines * lineWidth)

/-- The size of a node and the number of nodes in a line. -/
def nodesFor (nodeMax lineWidth height : Nat) : Except DmaError (Nat × Nat) :=
  if nodeMax ≤ lineWidth then
    match divisorNode lineWidth nodeMax with
    | some nodeSize => .ok (nodeSize, lineWidth / nodeSize)
    | none => .ok (nodeMax, 1)
  else if lineWidth = 0 then
    .error .divisionByZero
  else
    match multipleNode lineWidth nodeMax with
    | some nodeSize =>
        (fitLinesPerNode height lineWidth (nodeSize / lineWidth) nodeSize).map fun size =>
          (size, 1)
    | none => .ok (nodeMax, 1)

/-- The outer `while` loop: a smaller half buffer until the height is a multiple of its
lines.  A half buffer without lines leaves the loop; the remainder is then undefined. -/
def fitHalfBuffer (height lineWidth halfMin : Nat) (positive : 0 < halfMin) : Loop Nat where
  body := fun half =>
    if half / lineWidth ≠ 0 ∧ height % (half / lineWidth) ≠ 0 then
      some (half - halfMin)
    else
      none
  measure := id
  decreases := by
    intro half next continued
    split at continued
    next lines =>
      cases continued
      have nonzero : half ≠ 0 := by
        rintro rfl
        exact lines.1 (Nat.zero_div lineWidth)
      simp only [id]
      omega
    next => cases continued

/-- The half buffer for a minimal one. -/
def halfBufferFor (halfMax halfMin lineWidth height : Nat) : Except DmaError Nat :=
  if positive : 0 < halfMin then
    let half := (fitHalfBuffer height lineWidth halfMin positive).run
      (halfMax / halfMin * halfMin)
    if half / lineWidth = 0 then .error .divisionByZero else .ok half
  else
    .error .divisionByZero

/-! ## The sizes -/

/-- The fields of `cam_obj_t` that the computation sets. -/
structure DmaSizes where
  dmaBytesPerItem : Nat
  dmaBufferSize : Nat
  dmaHalfBufferSize : Nat
  dmaHalfBufferCnt : Nat
  dmaNodeBufferSize : Nat
  deriving DecidableEq, Repr

/-- `CONFIG_CAMERA_DMA_BUFFER_SIZE_MAX` and the range that the configuration allows. -/
structure DmaBufferSizeMax where
  value : Nat
  lower : 8192 ≤ value
  upper : value ≤ 32768

/-- `cam->width * cam->in_bytes_per_pixel`. -/
def camLineWidth (cam : CamObj) : Nat :=
  cam.width.toNat * cam.inBytesPerPixel.toNat

/-- `ll_cam_calc_rgb_dma`; `dma_bytes_per_item` is 1. -/
def llCamCalcRgbDma (config : DmaBufferSizeMax) (cam : CamObj) : Except DmaError DmaSizes :=
  match nodesFor lcdCamDmaNodeBufferMaxSize (camLineWidth cam) cam.height.toNat with
  | .error error => .error error
  | .ok (nodeSize, nodesPerLine) =>
      let dmaHalfBufferMax := config.value / 2
      if dmaHalfBufferMax < camLineWidth cam then
        .error .resolutionTooHigh
      else
        match halfBufferFor dmaHalfBufferMax (nodeSize * nodesPerLine) (camLineWidth cam)
            cam.height.toNat with
        | .error error => .error error
        | .ok half =>
            let dmaBufferSize :=
              if cam.psramMode then
                cam.recvSize.toNat
              else
                2 * dmaHalfBufferMax / half * half
            .ok {
              dmaBytesPerItem := 1
              dmaBufferSize := dmaBufferSize
              dmaHalfBufferSize := half
              dmaHalfBufferCnt := dmaBufferSize / half
              dmaNodeBufferSize := nodeSize }

/-- `ll_cam_dma_sizes`. -/
def llCamDmaSizes (config : DmaBufferSizeMax) (cam : CamObj) : Except DmaError DmaSizes :=
  if cam.jpegMode then
    if cam.psramMode then
      .ok {
        dmaBytesPerItem := 1
        dmaBufferSize := cam.recvSize.toNat
        dmaHalfBufferSize := 1024
        dmaHalfBufferCnt := cam.recvSize.toNat / 1024
        dmaNodeBufferSize := 1024 }
    else
      .ok {
        dmaBytesPerItem := 1
        dmaBufferSize := 16 * 1024
        dmaHalfBufferSize := 16 * 1024 / 16
        dmaHalfBufferCnt := 16
        dmaNodeBufferSize := 16 * 1024 / 16 }
  else
    llCamCalcRgbDma config cam

/-- `dma_node_cnt`. -/
def DmaSizes.dmaNodeCnt (sizes : DmaSizes) : Nat :=
  sizes.dmaBufferSize / sizes.dmaNodeBufferSize

/-- `frame_copy_cnt`. -/
def DmaSizes.frameCopyCnt (sizes : DmaSizes) (cam : CamObj) : Nat :=
  cam.recvSize.toNat / sizes.dmaHalfBufferSize

/-! ## What the searches find -/

theorem divisorNode_spec (lineWidth : Nat) {limit : Nat} (positive : 0 < limit) :
    ∃ nodeSize, divisorNode lineWidth limit = some nodeSize ∧
      0 < nodeSize ∧ nodeSize ≤ limit ∧ nodeSize ∣ lineWidth := by
  induction limit with
  | zero => cases positive
  | succ limit ih =>
      rw [divisorNode]
      split
      next divides =>
        exact ⟨limit + 1, rfl, by omega, le_rfl, Nat.dvd_of_mod_eq_zero divides⟩
      next missed =>
        have more : 0 < limit := by
          rcases Nat.eq_zero_or_pos limit with rfl | more
          · exact absurd (Nat.mod_one lineWidth) missed
          · exact more
        rcases ih more with ⟨nodeSize, found, nonzero, below, divides⟩
        exact ⟨nodeSize, found, nonzero, by omega, divides⟩

theorem multipleNode_spec {lineWidth limit : Nat} (positive : 0 < lineWidth)
    (fits : lineWidth ≤ limit) :
    ∃ lines, multipleNode lineWidth limit = some (lines * lineWidth) ∧
      0 < lines ∧ lines * lineWidth ≤ limit := by
  induction limit with
  | zero => omega
  | succ limit ih =>
      rw [multipleNode]
      split
      next whole =>
        have lines : (limit + 1) / lineWidth * lineWidth = limit + 1 :=
          Nat.div_mul_cancel (Nat.dvd_of_mod_eq_zero whole)
        refine ⟨(limit + 1) / lineWidth, by rw [lines], Nat.div_pos fits positive, ?_⟩
        rw [lines]
      next missed =>
        have smaller : lineWidth ≤ limit := by
          by_contra longer
          have only : lineWidth = limit + 1 := by omega
          rw [only] at missed
          exact missed (Nat.mod_self _)
        rcases ih smaller with ⟨lines, found, nonzero, below⟩
        exact ⟨lines, found, nonzero, by omega⟩

theorem fitLinesPerNode_spec (height lineWidth : Nat) {lines : Nat} (positive : 0 < lines) :
    ∃ fitted, fitLinesPerNode height lineWidth lines (lines * lineWidth) =
        .ok (fitted * lineWidth) ∧
      0 < fitted ∧ fitted ≤ lines ∧ fitted ∣ height := by
  induction lines with
  | zero => cases positive
  | succ lines ih =>
      rw [fitLinesPerNode]
      split
      next divides =>
        exact ⟨lines + 1, rfl, positive, le_rfl, Nat.dvd_of_mod_eq_zero divides⟩
      next missed =>
        have more : 0 < lines := by
          rcases Nat.eq_zero_or_pos lines with rfl | more
          · exact absurd (Nat.mod_one height) missed
          · exact more
        rcases ih more with ⟨fitted, found, nonzero, below, divides⟩
        exact ⟨fitted, found, nonzero, by omega, divides⟩

/-- A node is a part of some lines, of which there is a whole number in the picture. -/
structure NodeFits (nodeMax lineWidth height nodeSize halfMin : Nat) : Prop where
  positive : 0 < nodeSize
  small : nodeSize ≤ nodeMax
  part : nodeSize ∣ halfMin
  lines : ∃ lines, 0 < lines ∧ lines ∣ height ∧ halfMin = lines * lineWidth
  bound : halfMin ≤ max nodeMax lineWidth

theorem nodesFor_spec {nodeMax lineWidth : Nat} (height : Nat) (positive : 0 < lineWidth)
    (nodes : 0 < nodeMax) :
    ∃ nodeSize nodesPerLine, nodesFor nodeMax lineWidth height = .ok (nodeSize, nodesPerLine) ∧
      NodeFits nodeMax lineWidth height nodeSize (nodeSize * nodesPerLine) := by
  unfold nodesFor
  split
  next long =>
    rcases divisorNode_spec lineWidth nodes with ⟨nodeSize, found, nonzero, small, divides⟩
    have line : nodeSize * (lineWidth / nodeSize) = lineWidth := Nat.mul_div_cancel' divides
    refine ⟨nodeSize, lineWidth / nodeSize, by rw [found], ?_⟩
    rw [line]
    exact ⟨nonzero, small, divides, ⟨1, Nat.one_pos, Nat.one_dvd _, (Nat.one_mul _).symm⟩,
      le_max_right _ _⟩
  next short =>
    rw [if_neg (Nat.ne_of_gt positive)]
    rcases multipleNode_spec positive (Nat.le_of_lt (Nat.lt_of_not_le short)) with
      ⟨lines, found, nonzero, below⟩
    rcases fitLinesPerNode_spec height lineWidth nonzero with
      ⟨fitted, fit, fittedPos, fewer, divides⟩
    have size : fitted * lineWidth ≤ nodeMax :=
      le_trans (Nat.mul_le_mul_right lineWidth fewer) below
    refine ⟨fitted * lineWidth, 1, ?_, ?_⟩
    · rw [found]
      simp only
      rw [Nat.mul_div_cancel _ positive, fit]
      rfl
    · rw [Nat.mul_one]
      exact ⟨Nat.mul_pos fittedPos positive, size, dvd_rfl, ⟨fitted, fittedPos, divides, rfl⟩,
        le_max_of_le_left size⟩

/-! ## The half buffer -/

/-- A number of minimal half buffers such that every larger number that fits was rejected. -/
def HalfCandidate (halfMax lines lineWidth height half : Nat) : Prop :=
  ∃ count, 0 < count ∧ half = count * (lines * lineWidth) ∧ half ≤ halfMax ∧
    ∀ larger, count < larger → larger * (lines * lineWidth) ≤ halfMax →
      ¬larger * lines ∣ height

variable {halfMax lines lineWidth height : Nat}

theorem candidate_lines (positive : 0 < lineWidth) (count : Nat) :
    count * (lines * lineWidth) / lineWidth = count * lines := by
  rw [← Nat.mul_assoc, Nat.mul_div_cancel _ positive]

theorem halfCandidate_start (positive : 0 < lines * lineWidth)
    (fits : lines * lineWidth ≤ halfMax) :
    HalfCandidate halfMax lines lineWidth height
      (halfMax / (lines * lineWidth) * (lines * lineWidth)) := by
  refine ⟨_, Nat.div_pos fits positive, rfl, Nat.div_mul_le_self _ _, ?_⟩
  intro larger more inside
  have atMost : larger ≤ halfMax / (lines * lineWidth) :=
    (Nat.le_div_iff_mul_le positive).mpr inside
  omega

/-- The loop goes from one candidate to the next. -/
theorem halfCandidate_step (positive : 0 < lineWidth) (divides : lines ∣ height) {half : Nat}
    (candidate : HalfCandidate halfMax lines lineWidth height half)
    (rejected : height % (half / lineWidth) ≠ 0) :
    HalfCandidate halfMax lines lineWidth height (half - lines * lineWidth) := by
  rcases candidate with ⟨count, countPos, rfl, inside, larger⟩
  rw [candidate_lines positive] at rejected
  have notOne : count ≠ 1 := by
    rintro rfl
    rw [Nat.one_mul] at rejected
    exact rejected (Nat.mod_eq_zero_of_dvd divides)
  have fewer : count * (lines * lineWidth) - lines * lineWidth =
      (count - 1) * (lines * lineWidth) := by
    rw [Nat.sub_mul, Nat.one_mul]
  rw [fewer]
  refine ⟨count - 1, by omega, rfl, ?_, ?_⟩
  · exact le_trans (Nat.mul_le_mul_right _ (Nat.sub_le count 1)) inside
  · intro other more otherInside
    by_cases same : other = count
    · rw [same]
      exact fun divided => rejected (Nat.mod_eq_zero_of_dvd divided)
    · exact larger other (by omega) otherInside

/-- The half buffer is the largest number of minimal half buffers that fits and whose lines
divide the picture. -/
theorem halfBufferFor_spec (positive : 0 < lineWidth) (linesPos : 0 < lines)
    (divides : lines ∣ height) (fits : lines * lineWidth ≤ halfMax) :
    ∃ half, halfBufferFor halfMax (lines * lineWidth) lineWidth height = .ok half ∧
      HalfCandidate halfMax lines lineWidth height half ∧ half / lineWidth ∣ height := by
  have minPos : 0 < lines * lineWidth := Nat.mul_pos linesPos positive
  rw [halfBufferFor, dif_pos minPos]
  have candidate : HalfCandidate halfMax lines lineWidth height
      ((fitHalfBuffer height lineWidth (lines * lineWidth) minPos).run
        (halfMax / (lines * lineWidth) * (lines * lineWidth))) := by
    refine Loop.run_invariant ?_ (halfCandidate_start minPos fits)
    intro half next before continued
    simp only [fitHalfBuffer] at continued
    split at continued
    next rejected =>
      cases continued
      exact halfCandidate_step positive divides before rejected.2
    next => cases continued
  have left := Loop.body_run (fitHalfBuffer height lineWidth (lines * lineWidth) minPos)
    (halfMax / (lines * lineWidth) * (lines * lineWidth))
  generalize (fitHalfBuffer height lineWidth (lines * lineWidth) minPos).run
    (halfMax / (lines * lineWidth) * (lines * lineWidth)) = half at candidate left
  have nonzero : half / lineWidth ≠ 0 := by
    rcases candidate with ⟨count, countPos, rfl, -, -⟩
    rw [candidate_lines positive]
    exact Nat.ne_of_gt (Nat.mul_pos countPos linesPos)
  have accepted : height % (half / lineWidth) = 0 := by
    by_contra rejected
    simp only [fitHalfBuffer] at left
    rw [if_pos ⟨nonzero, rejected⟩] at left
    cases left
  exact ⟨half, if_neg nonzero, candidate, Nat.dvd_of_mod_eq_zero accepted⟩

/-! ## Whole frames -/

/-- The sizes with which a frame is received: nodes fill halves, halves are whole lines and
fill the buffer, and a frame is a whole number of halves. -/
structure SizesFit (config : DmaBufferSizeMax) (cam : CamObj) (sizes : DmaSizes) : Prop where
  item : sizes.dmaBytesPerItem = 1
  node_pos : 0 < sizes.dmaNodeBufferSize
  node_small : sizes.dmaNodeBufferSize ≤ lcdCamDmaNodeBufferMaxSize
  node_half : sizes.dmaNodeBufferSize ∣ sizes.dmaHalfBufferSize
  half_pos : 0 < sizes.dmaHalfBufferSize
  half_small : sizes.dmaHalfBufferSize ≤ config.value / 2
  half_lines : camLineWidth cam ∣ sizes.dmaHalfBufferSize
  lines_height : sizes.dmaHalfBufferSize / camLineWidth cam ∣ cam.height.toNat
  halves : sizes.dmaHalfBufferCnt * sizes.dmaHalfBufferSize = sizes.dmaBufferSize
  nodes : sizes.dmaNodeCnt * sizes.dmaNodeBufferSize = sizes.dmaBufferSize
  frame : sizes.frameCopyCnt cam * sizes.dmaHalfBufferSize = cam.recvSize.toNat
  psram : cam.psramMode = true → sizes.dmaBufferSize = cam.recvSize.toNat
  internal : cam.psramMode = false →
    sizes.dmaBufferSize ≤ config.value ∧ 2 ≤ sizes.dmaHalfBufferCnt

/-- A half buffer of lines that divide the picture divides the frame. -/
theorem half_dvd_frame {half : Nat} (whole : lineWidth ∣ half)
    (divides : half / lineWidth ∣ height) : half ∣ lineWidth * height := by
  rcases divides with ⟨count, rfl⟩
  rw [← Nat.mul_assoc, Nat.mul_div_cancel' whole]
  exact Nat.dvd_mul_right half count

variable {config : DmaBufferSizeMax} {cam : CamObj}

/-- The sizes for a node and a half buffer. -/
def sizesOf (config : DmaBufferSizeMax) (cam : CamObj) (nodeSize half : Nat) : DmaSizes :=
  let dmaBufferSize :=
    if cam.psramMode then cam.recvSize.toNat else 2 * (config.value / 2) / half * half
  ⟨1, dmaBufferSize, half, dmaBufferSize / half, nodeSize⟩

/-- A half buffer is found for every line that fits. -/
theorem llCamCalcRgbDma_found (positive : 0 < camLineWidth cam)
    (fits : camLineWidth cam ≤ config.value / 2) :
    ∃ nodeSize half, llCamCalcRgbDma config cam = .ok (sizesOf config cam nodeSize half) ∧
      (0 < nodeSize ∧ nodeSize ≤ lcdCamDmaNodeBufferMaxSize ∧ nodeSize ∣ half) ∧
      0 < half ∧ half ≤ config.value / 2 ∧ camLineWidth cam ∣ half ∧
      half / camLineWidth cam ∣ cam.height.toNat := by
  rcases nodesFor_spec cam.height.toNat positive (show 0 < lcdCamDmaNodeBufferMaxSize by decide)
    with ⟨nodeSize, nodesPerLine, nodes, nodeFits⟩
  rcases nodeFits.lines with ⟨lines, linesPos, divides, minimal⟩
  have minFits : lines * camLineWidth cam ≤ config.value / 2 := by
    rw [← minimal]
    have lower := config.lower
    have bound := nodeFits.bound
    unfold lcdCamDmaNodeBufferMaxSize at bound
    omega
  rcases halfBufferFor_spec positive linesPos divides minFits with
    ⟨half, found, ⟨count, countPos, halfEq, inside, -⟩, linesDivide⟩
  refine ⟨nodeSize, half, ?_, ⟨nodeFits.positive, nodeFits.small, ?_⟩, ?_, inside, ?_, linesDivide⟩
  · rw [llCamCalcRgbDma, nodes]
    simp only
    rw [if_neg (Nat.not_lt.mpr fits), minimal, found]
    rfl
  · rw [halfEq, ← minimal]
    exact Dvd.dvd.mul_left nodeFits.part count
  · rw [halfEq]
    exact Nat.mul_pos countPos (Nat.mul_pos linesPos positive)
  · rw [halfEq]
    exact Dvd.dvd.mul_left (Nat.dvd_mul_left _ _) count

theorem llCamCalcRgbDma_fit (received : cam.recvSize.toNat = camLineWidth cam * cam.height.toNat)
    (positive : 0 < camLineWidth cam) (fits : camLineWidth cam ≤ config.value / 2) :
    ∃ sizes, llCamCalcRgbDma config cam = .ok sizes ∧ SizesFit config cam sizes := by
  rcases llCamCalcRgbDma_found positive fits with
    ⟨nodeSize, half, found, ⟨nodePos, nodeSmall, nodeHalf⟩, halfPos, inside, wholeLines,
      linesDivide⟩
  have halfFrame : half ∣ cam.recvSize.toNat := by
    rw [received]
    exact half_dvd_frame wholeLines linesDivide
  have halfBuffer : half ∣ (sizesOf config cam nodeSize half).dmaBufferSize := by
    simp only [sizesOf]
    split
    · exact halfFrame
    · exact Nat.dvd_mul_left _ _
  refine ⟨_, found, ?_⟩
  constructor
  · rfl
  · exact nodePos
  · exact nodeSmall
  · exact nodeHalf
  · exact halfPos
  · exact inside
  · exact wholeLines
  · exact linesDivide
  · exact Nat.div_mul_cancel halfBuffer
  · exact Nat.div_mul_cancel (dvd_trans nodeHalf halfBuffer)
  · exact Nat.div_mul_cancel halfFrame
  · intro psram
    exact if_pos psram
  · intro internal
    have lower := config.lower
    have two : 2 ≤ 2 * (config.value / 2) / half := by
      rw [Nat.le_div_iff_mul_le halfPos]
      omega
    simp only [sizesOf, internal, Bool.false_eq_true, if_false]
    constructor
    · exact le_trans (Nat.div_mul_le_self _ _) (by omega)
    · rw [Nat.mul_div_cancel _ halfPos]
      exact two

theorem llCamCalcRgbDma_zero (empty : camLineWidth cam = 0) :
    llCamCalcRgbDma config cam = .error .divisionByZero := by
  have nodes : nodesFor lcdCamDmaNodeBufferMaxSize (camLineWidth cam) cam.height.toNat =
      .error .divisionByZero := by
    rw [empty, nodesFor, if_neg (by decide), if_pos rfl]
  rw [llCamCalcRgbDma, nodes]

theorem llCamCalcRgbDma_long (long : config.value / 2 < camLineWidth cam) :
    llCamCalcRgbDma config cam = .error .resolutionTooHigh := by
  have positive : 0 < camLineWidth cam := Nat.zero_lt_of_lt long
  rcases nodesFor_spec cam.height.toNat positive (show 0 < lcdCamDmaNodeBufferMaxSize by decide)
    with ⟨nodeSize, nodesPerLine, nodes, -⟩
  rw [llCamCalcRgbDma, nodes]
  simp only
  rw [if_pos long]

/-- Sizes that were computed for an uncompressed picture fit. -/
theorem llCamDmaSizes_fit {sizes : DmaSizes} (computed : llCamDmaSizes config cam = .ok sizes)
    (uncompressed : cam.jpegMode = false)
    (received : cam.recvSize.toNat = camLineWidth cam * cam.height.toNat) :
    SizesFit config cam sizes := by
  rw [llCamDmaSizes, uncompressed] at computed
  simp only [Bool.false_eq_true, if_false] at computed
  have positive : 0 < camLineWidth cam := by
    by_contra empty
    rw [llCamCalcRgbDma_zero (by omega)] at computed
    cases computed
  have fits : camLineWidth cam ≤ config.value / 2 := by
    by_contra long
    rw [llCamCalcRgbDma_long (by omega)] at computed
    cases computed
  rcases llCamCalcRgbDma_fit received positive fits with ⟨found, same, fit⟩
  rw [computed, Except.ok.injEq] at same
  rw [same]
  exact fit

/-! ## Configured cameras -/

section Configured

variable {setSampleMode : SetSampleMode} {psramMode : CameraConfig → Bool}
  {cameraConfig : CameraConfig} {width height sensorPid : UInt16}

/-- The object after `cam_config` has set the sample mode and the sizes. -/
theorem camConfig_of_not_jpeg (format : cameraConfig.pixelFormat ≠ .jpeg) :
    camConfig setSampleMode psramMode cameraConfig width height sensorPid cam =
      { (setSampleMode cam cameraConfig.pixelFormat cameraConfig.xclkFreqHz sensorPid).2 with
        jpegMode := false
        psramMode := psramMode cameraConfig
        frameCnt := cameraConfig.fbCount
        width := width
        height := height
        recvSize := width.toUInt32 * height.toUInt32 *
          (setSampleMode cam cameraConfig.pixelFormat cameraConfig.xclkFreqHz
            sensorPid).2.inBytesPerPixel.toUInt32
        fbSize := width.toUInt32 * height.toUInt32 *
          (setSampleMode cam cameraConfig.pixelFormat cameraConfig.xclkFreqHz
            sensorPid).2.fbBytesPerPixel.toUInt32 } := by
  simp only [camConfig, format, decide_false, Bool.false_eq_true, if_false]

/-- The received bytes of a frame, if the product fits. -/
theorem camConfig_recvSize (format : cameraConfig.pixelFormat ≠ .jpeg)
    (fits : width.toNat * height.toNat *
      (camConfig setSampleMode psramMode cameraConfig width height sensorPid
        cam).inBytesPerPixel.toNat < 2 ^ 31) :
    (camConfig setSampleMode psramMode cameraConfig width height sensorPid cam).recvSize.toNat =
      camLineWidth (camConfig setSampleMode psramMode cameraConfig width height sensorPid cam) *
        (camConfig setSampleMode psramMode cameraConfig width height sensorPid
          cam).height.toNat := by
  rw [camConfig_of_not_jpeg format] at fits ⊢
  have widthSmall := width.toNat_lt
  have heightSmall := height.toNat_lt
  have pixels : width.toNat * height.toNat < 2 ^ 32 := by nlinarith
  simp only [camLineWidth, UInt32.toNat_mul, UInt16.toNat_toUInt32, UInt8.toNat_toUInt32] at fits ⊢
  rw [Nat.mod_eq_of_lt pixels, Nat.mod_eq_of_lt (by omega)]
  ring

/-- For every picture that is not compressed: the sizes are computed with a division by
zero if a line has no bytes, refused if it is longer than a half buffer, and otherwise a
frame is a whole number of halves. -/
theorem dmaSizes_whole_frame (config : DmaBufferSizeMax) (format : cameraConfig.pixelFormat ≠ .jpeg)
    (fits : width.toNat * height.toNat *
      (camConfig setSampleMode psramMode cameraConfig width height sensorPid
        cam).inBytesPerPixel.toNat < 2 ^ 31) :
    let configured := camConfig setSampleMode psramMode cameraConfig width height sensorPid cam
    (camLineWidth configured = 0 → llCamDmaSizes config configured = .error .divisionByZero) ∧
      (config.value / 2 < camLineWidth configured →
        llCamDmaSizes config configured = .error .resolutionTooHigh) ∧
      (0 < camLineWidth configured → camLineWidth configured ≤ config.value / 2 →
        ∃ sizes, llCamDmaSizes config configured = .ok sizes ∧
          SizesFit config configured sizes) := by
  intro configured
  have received := camConfig_recvSize format fits
  have calculated : llCamDmaSizes config configured = llCamCalcRgbDma config configured := by
    have uncompressed : configured.jpegMode = false := by
      simp only [configured, camConfig_of_not_jpeg format]
    rw [llCamDmaSizes, uncompressed]
    simp
  rw [calculated]
  exact ⟨llCamCalcRgbDma_zero, llCamCalcRgbDma_long, llCamCalcRgbDma_fit received⟩

/-- The frames of the marker detector. -/
theorem dmaSizes_detector :
    ∃ sizes, llCamDmaSizes ⟨32768, by decide, by decide⟩
        (camConfig Unedited.llCamSetSampleMode Unedited.psramMode detectorConfig 240 240 ov2640Pid
          emptyCamObj) = .ok sizes ∧
      SizesFit ⟨32768, by decide, by decide⟩
        (camConfig Unedited.llCamSetSampleMode Unedited.psramMode detectorConfig 240 240 ov2640Pid
          emptyCamObj) sizes :=
  (dmaSizes_whole_frame _ (by decide) (by decide)).2.2 (by decide) (by decide)

/-! ## Ignored answers -/

theorem llCamCalcRgbDma_divisionByZero_iff :
    llCamCalcRgbDma config cam = .error .divisionByZero ↔ camLineWidth cam = 0 := by
  constructor
  · intro failed
    by_contra nonzero
    have positive : 0 < camLineWidth cam := Nat.pos_of_ne_zero nonzero
    rcases Nat.lt_or_ge (config.value / 2) (camLineWidth cam) with long | fits
    · rw [llCamCalcRgbDma_long long] at failed
      cases failed
    · rcases llCamCalcRgbDma_found positive fits with ⟨nodeSize, half, found, -⟩
      rw [found] at failed
      cases failed
  · exact llCamCalcRgbDma_zero

/-- A line without bytes comes from a sample mode that was not set. -/
theorem divisionByZero_iff_inBytes (config : DmaBufferSizeMax)
    (format : cameraConfig.pixelFormat ≠ .jpeg) (wide : width ≠ 0) :
    llCamDmaSizes config (camConfig setSampleMode psramMode cameraConfig width height sensorPid
        cam) = .error .divisionByZero ↔
      (setSampleMode cam cameraConfig.pixelFormat cameraConfig.xclkFreqHz
        sensorPid).2.inBytesPerPixel = 0 := by
  have widthPos : width.toNat ≠ 0 := by
    intro zero
    exact wide (UInt16.toNat_inj.mp zero)
  rw [camConfig_of_not_jpeg format, llCamDmaSizes]
  simp only [Bool.false_eq_true, if_false]
  rw [llCamCalcRgbDma_divisionByZero_iff]
  simp only [camLineWidth, Nat.mul_eq_zero, widthPos, false_or]
  constructor
  · intro zero
    exact UInt8.toNat_inj.mp zero
  · intro zero
    rw [zero]
    rfl

/-- `cam_config` does not look at the answer of `ll_cam_set_sample_mode`.  With the driver
of the component, the computation of the sizes then divides by zero exactly if the format
was not supported; the edited driver supports all formats and never does. -/
theorem divisionByZero_iff_notSupported (config : DmaBufferSizeMax)
    (format : cameraConfig.pixelFormat ≠ .jpeg) (wide : width ≠ 0) :
    (llCamDmaSizes config (camConfig Unedited.llCamSetSampleMode Unedited.psramMode cameraConfig
        width height sensorPid emptyCamObj) = .error .divisionByZero ↔
      (Unedited.llCamSetSampleMode emptyCamObj cameraConfig.pixelFormat cameraConfig.xclkFreqHz
        sensorPid).1 = .notSupported) ∧
    llCamDmaSizes config (camConfig Edited.llCamSetSampleMode Edited.psramMode cameraConfig
      width height sensorPid emptyCamObj) ≠ .error .divisionByZero := by
  constructor
  · rw [divisionByZero_iff_inBytes config format wide]
    cases pixelFormat : cameraConfig.pixelFormat with
    | jpeg => exact absurd pixelFormat format
    | grayscale =>
        rw [unedited_grayscale]
        split <;> simp [CamObj.setBytesPerPixel]
    | rgb565 | yuv422 | rgb888 | raw | rgb444 | rgb555 =>
        rw [unedited_other (by decide)]
        simp [setOtherSampleMode, CamObj.setBytesPerPixel, emptyCamObj]
  · rw [ne_eq, divisionByZero_iff_inBytes config format wide, edited_llCamSetSampleMode]
    simp only [CamObj.setBytesPerPixel]
    split <;> decide

/-- A raw frame with the driver of the component. -/
theorem divisionByZero_raw :
    llCamDmaSizes ⟨32768, by decide, by decide⟩
      (camConfig Unedited.llCamSetSampleMode Unedited.psramMode ⟨.raw, 16000000, 1⟩ 1600 1200
        ov2640Pid emptyCamObj) = .error .divisionByZero :=
  (divisionByZero_iff_notSupported ⟨32768, by decide, by decide⟩ (by decide) (by decide)).1.mpr
    (by decide)

end Configured

end ECam.Camera
