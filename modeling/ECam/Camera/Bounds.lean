import ECam.Camera.HeldFrames

/-!
# Nothing is written behind a buffer

The hardware stores what it receives in a ring, and the task looks at the size of the frame
buffer before it copies a half.  Neither writes behind the memory that was allocated, in
whatever order their steps are taken, for compressed and uncompressed frames and for both
kinds of transfers.
-/

namespace ECam.Camera

open ECam.Library
open ECam.ImageProcessing

/-- The size of a frame buffer, without what was added to align it. -/
def Setup.bufferSize (setup : Setup) : Nat :=
  if setup.cam.psramMode then
    if setup.cam.fbSize < setup.cam.recvSize then
      setup.cam.recvSize.toNat
    else
      setup.cam.fbSize.toNat
  else
    setup.cam.fbSize.toNat

/-- The sizes were computed for the camera, and the numbers of bytes of a pixel are some that
the driver sets. -/
structure Configured (config : DmaBufferSizeMax) (setup : Setup) : Prop where
  computed : llCamDmaSizes config setup.cam = .ok setup.sizes
  received : setup.cam.jpegMode = false →
    setup.cam.recvSize.toNat = camLineWidth setup.cam * setup.cam.height.toNat
  bytes : (setup.cam.inBytesPerPixel = 2 ∧ setup.cam.fbBytesPerPixel = 1) ∨
    (setup.cam.inBytesPerPixel = setup.cam.fbBytesPerPixel ∧ setup.cam.inBytesPerPixel ≠ 0)
  nodes : setup.cam.psramMode = true → 0 < setup.sizes.dmaNodeCnt

/-- What is known about one frame: the memory behind the buffer is as it was, and the length
stays inside.  The length of a compressed frame that the hardware has stored is not
bounded. -/
structure FrameBounded (setup : Setup) (contents : Memory) (frame : CamFrame) : Prop where
  beyond : ∀ index, setup.bufferSize ≤ index → frame.buf index = contents index
  copied : setup.cam.psramMode = false → frame.len ≤ setup.cam.fbSize.toNat
  direct : setup.cam.psramMode = true → setup.cam.jpegMode = false →
    frame.len ≤ setup.cam.recvSize.toNat

/-- What is known about all frames and the receive buffer. -/
structure Bounded (setup : Setup) (contents : Nat → Memory) (dmaBuffer : Memory)
    (driver : Driver) : Prop where
  frames : ∀ x, FrameBounded setup (contents x) (driver.frames x)
  dmaBuffer : ∀ index, setup.sizes.dmaBufferSize ≤ index →
    driver.dmaBuffer index = dmaBuffer index

/-- The application stays inside the buffers as well. -/
def WritesInside (setup : Setup) (_ : Driver) : Action → Prop
  | .write _ index _ => index < setup.bufferSize
  | _ => True

variable {config : DmaBufferSizeMax} {setup : Setup} {driver : Driver} {contents : Nat → Memory}
  {dmaBuffer : Memory}

/-! ## Sizes -/

theorem Configured.item (configured : Configured config setup) :
    setup.sizes.dmaBytesPerItem = 1 := by
  cases jpeg : setup.cam.jpegMode with
  | true =>
      have computed := configured.computed
      rw [llCamDmaSizes, if_pos jpeg] at computed
      split at computed <;> rw [← Except.ok.inj computed]
  | false => exact (llCamDmaSizes_fit configured.computed jpeg (configured.received jpeg)).item

/-- The check before a copy is about the bytes that the copy adds. -/
theorem Configured.copyHalf_len (configured : Configured config setup) :
    (driver.copyHalf setup).len = driver.frame.len + setup.pixelsPerDma := by
  simp only [Driver.copyHalf, llCamMemcpy, Setup.pixelsPerDma, configured.item, Nat.one_mul]
  rcases configured.bytes with ⟨inBytes, fbBytes⟩ | ⟨same, nonzero⟩
  · rw [if_pos ⟨inBytes, fbBytes⟩, inBytes, fbBytes]
    simp
  · have direct : ¬(setup.cam.inBytesPerPixel = 2 ∧ setup.cam.fbBytesPerPixel = 1) := by
      rintro ⟨two, one⟩
      rw [same, one] at two
      exact absurd two (by decide)
    have positive : 0 < setup.cam.fbBytesPerPixel.toNat := by
      refine Nat.pos_of_ne_zero fun zero => nonzero ?_
      rw [same]
      exact UInt8.toNat_inj.mp zero
    rw [if_neg direct, same, Nat.mul_div_cancel _ positive]

/-- The ring of a direct transfer lies inside a received frame, the other one fills the
receive buffer. -/
theorem Configured.dmaOffset_lt (configured : Configured config setup) (received : Nat) :
    setup.dmaOffset received < if setup.cam.psramMode then setup.cam.recvSize.toNat
      else setup.sizes.dmaBufferSize := by
  unfold Setup.dmaOffset
  cases psram : setup.cam.psramMode with
  | true =>
      have fit := llCamDmaSizes_nodesFit configured.computed psram configured.received
      have below := Nat.mod_lt received (Nat.mul_pos (configured.nodes psram) fit.node_pos)
      exact lt_of_lt_of_le below fit.inside
  | false =>
      cases jpeg : setup.cam.jpegMode with
      | true =>
          have computed := configured.computed
          rw [llCamDmaSizes, if_pos jpeg, psram] at computed
          rw [← Except.ok.inj computed]
          exact Nat.mod_lt received (by decide)
      | false =>
          have fit := llCamDmaSizes_fit configured.computed jpeg (configured.received jpeg)
          have several := (fit.internal psram).2
          have positive : 0 < setup.sizes.dmaBufferSize := by
            rw [← fit.halves]
            exact Nat.mul_pos (by omega) fit.half_pos
          rw [fit.nodes]
          exact Nat.mod_lt received positive

theorem recvSize_le_bufferSize (psram : setup.cam.psramMode = true) :
    setup.cam.recvSize.toNat ≤ setup.bufferSize := by
  rw [Setup.bufferSize, if_pos psram]
  split
  next => exact le_rfl
  next larger =>
    rw [UInt32.lt_iff_toNat_lt, Nat.not_lt] at larger
    exact larger

/-! ## One frame -/

theorem FrameBounded.setEn {memory : Memory} {frame : CamFrame}
    (bounded : FrameBounded setup memory frame) (en : Bool) :
    FrameBounded setup memory { frame with en := en } :=
  ⟨bounded.beyond, bounded.copied, bounded.direct⟩

/-- A copied half ends inside the buffer. -/
theorem frameBounded_copyHalf (configured : Configured config setup) {memory : Memory}
    (bounded : FrameBounded setup memory driver.frame) (psram : setup.cam.psramMode = false)
    (fits : ¬driver.Overflows setup) : FrameBounded setup memory (driver.copyHalf setup) := by
  have length := @Configured.copyHalf_len config setup driver configured
  have reported : (llCamMemcpy setup.cam (fromBuffer (driver.half setup)) driver.frame.len
      setup.sizes.dmaHalfBufferSize driver.frame.buf).2 = setup.pixelsPerDma :=
    Nat.add_left_cancel length
  unfold Driver.Overflows at fits
  refine ⟨?_, ?_, ?_⟩
  · intro index outside
    have size : setup.bufferSize = setup.cam.fbSize.toNat := by
      rw [Setup.bufferSize, psram]
      rfl
    have kept : (driver.copyHalf setup).buf index = driver.frame.buf index := by
      refine llCamMemcpy_outside setup.cam (Or.inr ?_)
      rw [reported]
      omega
    rw [kept]
    exact bounded.beyond index outside
  · intro _
    rw [length]
    omega
  · intro direct
    rw [psram] at direct
    cases direct

theorem frameBounded_lastHalf (configured : Configured config setup) {memory : Memory}
    (bounded : FrameBounded setup memory driver.frame) :
    FrameBounded setup memory (lastHalf setup driver).1 := by
  unfold lastHalf
  split
  next =>
    split
    next => exact bounded
    next copied =>
      split
      next => exact bounded
      next fits =>
        exact frameBounded_copyHalf configured bounded (Bool.eq_false_of_not_eq_true copied) fits
  next => exact bounded

theorem frameBounded_finishFrame {memory : Memory} {frame : CamFrame}
    (bounded : FrameBounded setup memory frame) (cnt : Nat) :
    FrameBounded setup memory (finishFrame setup frame cnt) := by
  unfold finishFrame
  split
  next psram =>
    have notCopied : setup.cam.psramMode ≠ false := by
      rw [psram]
      decide
    split
    next jpeg =>
      refine ⟨bounded.beyond, fun copied => absurd copied notCopied, ?_⟩
      intro _ uncompressed
      rw [jpeg] at uncompressed
      cases uncompressed
    next => exact ⟨bounded.beyond, fun copied => absurd copied notCopied, fun _ _ => le_rfl⟩
  next =>
    split
    next => exact bounded.setEn true
    next => exact bounded.setEn false

/-- The conversion in place writes to the first half of what was received. -/
theorem frameBounded_converted (configured : Configured config setup) {memory : Memory}
    {frame : CamFrame} (bounded : FrameBounded setup memory frame)
    (jpeg : setup.cam.jpegMode = false) (psram : setup.cam.psramMode = true)
    (different : setup.cam.inBytesPerPixel ≠ setup.cam.fbBytesPerPixel) :
    FrameBounded setup memory { frame with
      buf := (llCamMemcpy setup.cam inPlace 0 frame.len frame.buf).1
      len := (llCamMemcpy setup.cam inPlace 0 frame.len frame.buf).2 } := by
  have gray := configured.bytes.resolve_right fun same => different same.1
  have len := bounded.direct psram jpeg
  have size := recvSize_le_bufferSize psram
  rw [llCamMemcpy, if_pos gray]
  refine ⟨?_, ?_, ?_⟩
  · intro index outside
    simp only
    rw [grayGroups_inPlace, if_neg (by omega)]
    exact bounded.beyond index outside
  · intro copied
    rw [psram] at copied
    cases copied
  · intro _ _
    simp only
    omega

/-! ## All frames -/

theorem bounded_update {frames : Nat → CamFrame}
    (bounded : ∀ x, FrameBounded setup (contents x) (frames x)) (y : Nat) {frame : CamFrame}
    (changed : FrameBounded setup (contents y) frame) (x : Nat) :
    FrameBounded setup (contents x) (Function.update frames y frame x) := by
  rw [Function.update_apply]
  split
  next same =>
    rw [same]
    exact changed
  next => exact bounded x

theorem bounded_camTask (configured : Configured config setup)
    (bounded : Bounded setup contents dmaBuffer driver) :
    Bounded setup contents dmaBuffer (camTask setup driver) := by
  have frame := bounded.frames driver.framePos
  constructor
  · cases (@camTask_change setup driver).1 with
    | unchanged frames =>
        rw [frames]
        exact bounded.frames
    | copied handling reading room frames =>
        rw [frames]
        exact bounded_update bounded.frames _
          (frameBounded_copyHalf configured frame room.1 room.2)
    | finished handling reading frames =>
        rw [frames]
        exact bounded_update bounded.frames _
          (frameBounded_finishFrame (frameBounded_lastHalf configured frame) _)
    | enabled y inFlight frames =>
        rw [frames]
        exact bounded_update bounded.frames _ ((bounded.frames y).setEn true)
    | started origin starting frames =>
        rw [frames]
        exact bounded_update bounded.frames _
          ⟨frame.beyond, fun _ => Nat.zero_le _, fun _ _ => Nat.zero_le _⟩
  · rw [camTask_change.2.2]
    exact bounded.dmaBuffer

theorem bounded_storeByte (configured : Configured config setup) (value : UInt8)
    (bounded : Bounded setup contents dmaBuffer driver) :
    Bounded setup contents dmaBuffer (storeByte setup value driver) := by
  have offset := configured.dmaOffset_lt driver.transfer.received.length
  unfold storeByte
  split
  next =>
    cases psram : setup.cam.psramMode with
    | true =>
        rw [psram] at offset
        have size := recvSize_le_bufferSize psram
        have frame := bounded.frames driver.transfer.framePos
        simp only [if_true] at offset ⊢
        refine ⟨bounded_update bounded.frames _ ⟨?_, frame.copied, frame.direct⟩,
          bounded.dmaBuffer⟩
        intro index outside
        have apart : index ≠ setup.dmaOffset driver.transfer.received.length := by omega
        exact (Function.update_of_ne apart _ _).trans (frame.beyond index outside)
    | false =>
        rw [psram] at offset
        simp only [Bool.false_eq_true, if_false] at offset ⊢
        refine ⟨bounded.frames, ?_⟩
        intro index outside
        have apart : index ≠ setup.dmaOffset driver.transfer.received.length := by omega
        exact (Function.update_of_ne apart _ _).trans (bounded.dmaBuffer index outside)
  next => exact bounded

theorem bounded_camGive (x : Nat) (bounded : Bounded setup contents dmaBuffer driver) :
    Bounded setup contents dmaBuffer (camGive setup x driver) := by
  unfold camGive
  split
  next =>
    exact ⟨bounded_update bounded.frames x ((bounded.frames x).setEn true), bounded.dmaBuffer⟩
  next => exact bounded

theorem bounded_camTake (configured : Configured config setup)
    (bounded : Bounded setup contents dmaBuffer driver) :
    Bounded setup contents dmaBuffer (camTake setup driver) := by
  unfold camTake
  split
  next => exact bounded
  next x others queued =>
    have frame := bounded.frames x
    simp only
    split
    next jpeg =>
      split
      next offset found =>
        have inside := (camVerifyJpegEoi_eq_some_iff.mp found).1.2.1
        refine ⟨bounded_update bounded.frames x ⟨frame.beyond, ?_, ?_⟩, bounded.dmaBuffer⟩
        · exact fun copied => le_trans inside (frame.copied copied)
        · intro _ uncompressed
          rw [jpeg] at uncompressed
          cases uncompressed
      next => exact bounded_camGive x ⟨bounded.frames, bounded.dmaBuffer⟩
    next uncompressed =>
      split
      next direct =>
        exact ⟨bounded_update bounded.frames x (frameBounded_converted configured frame
          (Bool.eq_false_of_not_eq_true uncompressed) direct.1 direct.2), bounded.dmaBuffer⟩
      next => exact ⟨bounded.frames, bounded.dmaBuffer⟩

theorem bounded_step (configured : Configured config setup)
    (bounded : Bounded setup contents dmaBuffer driver) {action : Action}
    (inside : WritesInside setup driver action) :
    Bounded setup contents dmaBuffer (step setup driver action) := by
  cases action with
  | interrupt event =>
      simp only [step, llCamSendEvent]
      split
      next => exact ⟨bounded.frames, bounded.dmaBuffer⟩
      next => exact ⟨bounded.frames, bounded.dmaBuffer⟩
  | task => exact bounded_camTask configured bounded
  | byte value => exact bounded_storeByte configured value bounded
  | take => exact bounded_camTake configured bounded
  | give x =>
      simp only [step]
      split
      next =>
        have given := bounded_camGive x bounded
        exact ⟨given.frames, given.dmaBuffer⟩
      next => exact bounded
  | write x index value =>
      have frame := bounded.frames x
      simp only [step]
      split
      next =>
        refine ⟨bounded_update bounded.frames x ⟨?_, frame.copied, frame.direct⟩,
          bounded.dmaBuffer⟩
        intro other outside
        have apart : other ≠ index := fun same => by
          rw [same] at outside
          exact absurd inside (Nat.not_lt.mpr outside)
        exact (Function.update_of_ne apart _ _).trans (frame.beyond other outside)
      next => exact bounded

/-- In every run, the memory behind the frame buffers and behind the receive buffer stays
as it was, and the length of a frame stays inside its buffer unless the frame is compressed
and stored by the hardware. -/
theorem buffers_never_overrun (configured : Configured config setup) (contents : Nat → Memory)
    (dmaBuffer : Memory) (actions : List Action)
    (inside : EachStep (step setup) (WritesInside setup) (Driver.initial contents dmaBuffer)
      actions) :
    Always (step setup) (Bounded setup contents dmaBuffer) (Driver.initial contents dmaBuffer)
      actions := by
  refine Always.of_steps (fun _ _ bounded inside => bounded_step configured bounded inside) ?_
    inside
  exact ⟨fun _ => ⟨fun _ _ => rfl, fun _ => Nat.zero_le _, fun _ _ => Nat.zero_le _⟩,
    fun _ _ => rfl⟩

theorem rawSetup_configured : Configured ⟨32768, by decide, by decide⟩ rawSetup := by
  constructor
  · decide +kernel
  · exact fun _ => by decide +kernel
  · exact Or.inr ⟨by decide +kernel, by decide +kernel⟩
  · exact fun _ => by decide +kernel

theorem raw_buffers_never_overrun :
    Always (step rawSetup) (Bounded rawSetup (fun _ _ => 0) (fun _ => 0))
      (Driver.initial (fun _ _ => 0) (fun _ => 0)) (takeRawFrame ++ [.write 0 1919999 1]) :=
  buffers_never_overrun rawSetup_configured _ _ _ (by
    simp only [takeRawFrame, List.cons_append, List.nil_append, EachStep, WritesInside, true_and,
      and_true]
    decide +kernel)

end ECam.Camera
