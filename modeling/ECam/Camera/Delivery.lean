import ECam.Camera.Stream

/-!
# What a delivered frame contains

A frame is sent when it has the right length.  If the camera is punctual it then consists of
halves that were received one after the other, so every frame in the queue is a contiguous
part of what the camera has sent.
-/

namespace ECam.Camera

open ECam.Library
open ECam.ImageProcessing

variable {setup : Setup} {driver : Driver} {observed : Observed}

/-- The frame is a contiguous part of what the camera has sent, of the size of a frame and
converted to the format of the frame buffer. -/
def Complete (setup : Setup) (sent : List UInt8) (frame : CamFrame) : Prop :=
  frame.len = setup.cam.fbSize.toNat ∧
    ∃ bytes : List UInt8, bytes <:+: sent ∧ bytes.length = setup.cam.recvSize.toNat ∧
      ∀ index, index < frame.len →
        bytes[inputStride setup.cam * index]? = some (frame.buf index)

theorem Complete.mono {sent more : List UInt8} {frame : CamFrame}
    (complete : Complete setup sent frame) (part : sent <:+: more) :
    Complete setup more frame := by
  rcases complete with ⟨len, bytes, inside, length, same⟩
  exact ⟨len, bytes, inside.trans part, length, same⟩

theorem observe_sent (action : Action) :
    observed.sent <:+: (observe setup observed action).sent := by
  cases action with
  | byte value => exact List.infix_append' [] observed.sent [value]
  | interrupt | task | take | give | write => exact List.infix_rfl

/-- A filled frame of the right length is complete. -/
theorem complete_of_filled (copying : Copying setup) (streams : Streams setup observed)
    (filled : Filled setup observed.driver)
    (len : observed.driver.frame.len = setup.cam.fbSize.toNat) (en : Bool) :
    Complete setup observed.sent { observed.driver.frame with en := en } := by
  have total : setup.cam.recvSize.toNat ≤ observed.driver.transfer.received.length := by
    have received := filled.received
    rw [← copying.pixels, ← Nat.mul_assoc, ← filled.len, len, copying.frame] at received
    exact received
  refine ⟨len, observed.driver.transfer.received.take setup.cam.recvSize.toNat, ?_, ?_, ?_⟩
  · exact (List.take_prefix _ _).isInfix.trans streams.part
  · rw [List.length_take, Nat.min_eq_left total]
  · intro index inside
    have below : inputStride setup.cam * index < setup.cam.recvSize.toNat := by
      have positive : 0 < inputStride setup.cam := by
        unfold inputStride
        split <;> decide
      simp only at inside
      rw [← copying.frame, ← len, Nat.mul_comm]
      exact Nat.mul_lt_mul_of_pos_right inside positive
    rw [List.getElem?_take_of_lt below]
    exact filled.bytes index inside

/-- A frame that is sent was filled and has the right length. -/
theorem complete_of_sending (copying : Copying setup) (streams : Streams setup observed)
    (reads : Reads setup observed) (handling : observed.driver.stage = .handle .vsync)
    (reading : observed.driver.state = .readBuf)
    (sending : (camTaskVsync setup observed.driver).Sending) :
    Complete setup observed.sent
      ((camTaskVsync setup observed.driver).frames observed.driver.framePos) := by
  unfold Reads at reads
  rw [handling] at reads
  have filled := (reads reading).1
  unfold camTaskVsync at sending ⊢
  simp only [copying.jpeg, copying.psram, lastHalf, finishFrame, Bool.false_eq_true, if_false,
    true_or, or_true, if_true, true_and] at sending ⊢
  by_cases whole : observed.driver.frame.len = setup.cam.fbSize.toNat
  · simp only [whole, ne_eq, not_true_eq_false, if_false]
    simp only [Driver.setFrame, Function.update_self]
    exact whole ▸ complete_of_filled copying streams filled whole false
  · simp only [whole, ne_eq, not_false_eq_true, if_true] at sending
    cases sending

/-- Everything that is kept while the camera is punctual. -/
structure Delivers (setup : Setup) (observed : Observed) : Prop where
  ownership : Ownership setup observed.driver
  streams : Streams setup observed
  reads : Reads setup observed
  completes : observed.driver.AllQueued (Complete setup observed.sent)

theorem delivers_initial (positive : 0 < setup.frameCnt) (contents : Nat → Memory)
    (dmaBuffer : Memory) : Delivers setup (Observed.initial contents dmaBuffer) := by
  refine ⟨ownership_initial positive contents dmaBuffer, streams_initial contents dmaBuffer, ?_, ?_⟩
  · intro reading
    cases reading
  · rintro x (queued | ⟨sending, -⟩)
    · cases queued
    · cases sending

theorem delivers_step (copying : Copying setup) (delivers : Delivers setup observed)
    {action : Action} (punctual : Punctual setup observed action) :
    Delivers setup (observe setup observed action) := by
  rcases delivers with ⟨ownership, streams, reads, completes⟩
  refine ⟨ownership_step ownership action, streams_step streams action, ?_, ?_⟩
  · cases action with
    | interrupt event => exact reads_interrupt event reads punctual
    | task => exact reads_task copying ownership streams reads punctual
    | byte value => exact reads_byte copying value reads punctual
    | take | give | write => exact reads_application trivial ownership reads
  · have queued := allQueued_step ownership completes action
      (fun _ handling reading sending =>
        complete_of_sending copying streams reads handling reading sending)
    exact fun x place => (queued x place).mono (observe_sent action)

/-! ## Configured cameras -/

section Configured

variable {config : DmaBufferSizeMax} {cameraConfig : CameraConfig}
  {width height sensorPid : UInt16} {sizes : DmaSizes}

/-- The bytes of a pixel that the component can set for these formats. -/
theorem unedited_bytesPerPixel
    (format : cameraConfig.pixelFormat = .rgb565 ∨ cameraConfig.pixelFormat = .yuv422 ∨
      cameraConfig.pixelFormat = .grayscale) (cam : CamObj) :
    ∃ inBytes fbBytes, (Unedited.llCamSetSampleMode cam cameraConfig.pixelFormat
        cameraConfig.xclkFreqHz sensorPid).2 = cam.setBytesPerPixel inBytes fbBytes ∧
      ((inBytes = 2 ∧ fbBytes = 2) ∨ (inBytes = 1 ∧ fbBytes = 1) ∨
        (inBytes = 2 ∧ fbBytes = 1)) := by
  rcases format with format | format | format
  · rw [format, unedited_other (by decide), setOtherSampleMode, if_pos (Or.inr rfl)]
    exact ⟨2, 2, rfl, Or.inl ⟨rfl, rfl⟩⟩
  · rw [format, unedited_other (by decide), setOtherSampleMode, if_pos (Or.inl rfl)]
    exact ⟨2, 2, rfl, Or.inl ⟨rfl, rfl⟩⟩
  · rw [format, unedited_grayscale]
    split
    next => exact ⟨1, 1, rfl, Or.inr (Or.inl ⟨rfl, rfl⟩)⟩
    next => exact ⟨2, 1, rfl, Or.inr (Or.inr ⟨rfl, rfl⟩)⟩

/-- A camera that the component has set up for one of these formats, with any clock but
the one that selects direct transfers, copies its frames. -/
theorem copying_of_camConfig
    (format : cameraConfig.pixelFormat = .rgb565 ∨ cameraConfig.pixelFormat = .yuv422 ∨
      cameraConfig.pixelFormat = .grayscale) (clock : cameraConfig.xclkFreqHz ≠ 16000000)
    (groups : 4 ∣ width.toNat) (fits : width.toNat * height.toNat * 2 < 2 ^ 31)
    (computed : llCamDmaSizes config (camConfig Unedited.llCamSetSampleMode Unedited.psramMode
      cameraConfig width height sensorPid emptyCamObj) = .ok sizes) (grabLatest : Bool) :
    Copying ⟨camConfig Unedited.llCamSetSampleMode Unedited.psramMode cameraConfig width height
      sensorPid emptyCamObj, sizes, grabLatest⟩ := by
  have uncompressed : cameraConfig.pixelFormat ≠ .jpeg := by
    rcases format with format | format | format <;> rw [format] <;> decide
  rcases @unedited_bytesPerPixel cameraConfig sensorPid format emptyCamObj with
    ⟨inBytes, fbBytes, sampled, bytes⟩
  have psram : Unedited.psramMode cameraConfig = false := by
    simp only [Unedited.psramMode, beq_eq_false_iff_ne]
    exact clock
  have configured := @camConfig_of_not_jpeg emptyCamObj Unedited.llCamSetSampleMode
    Unedited.psramMode cameraConfig width height sensorPid uncompressed
  have small : width.toNat * height.toNat *
      (camConfig Unedited.llCamSetSampleMode Unedited.psramMode cameraConfig width height
        sensorPid emptyCamObj).inBytesPerPixel.toNat < 2 ^ 31 := by
    rw [configured, sampled]
    simp only [CamObj.setBytesPerPixel]
    rcases bytes with ⟨rfl, -⟩ | ⟨rfl, -⟩ | ⟨rfl, -⟩
    · exact fits
    · simp; omega
    · exact fits
  have fit := llCamDmaSizes_fit computed (by rw [configured])
    (camConfig_recvSize uncompressed small)
  rw [configured, sampled, psram] at fit ⊢
  have pixels : width.toNat * height.toNat < 2 ^ 32 := by omega
  have line := fit.half_lines
  simp only [camLineWidth, CamObj.setBytesPerPixel] at line
  constructor
  · rfl
  · rfl
  · exact fit.half_pos
  · rw [fit.nodes, fit.halves]
  · exact (fit.internal rfl).2
  · rcases bytes with ⟨rfl, rfl⟩ | ⟨rfl, rfl⟩ | ⟨rfl, rfl⟩
    · intro gray
      exact absurd gray (by simp [inputStride, CamObj.setBytesPerPixel])
    · intro gray
      exact absurd gray (by simp [inputStride, CamObj.setBytesPerPixel])
    · exact fun _ => dvd_trans (Nat.mul_dvd_mul_right groups 2) line
  · have item := fit.item
    rcases bytes with ⟨rfl, rfl⟩ | ⟨rfl, rfl⟩ | ⟨rfl, rfl⟩
    · simp [Setup.pixelsPerDma, inputStride, CamObj.setBytesPerPixel, item]
    · simp [Setup.pixelsPerDma, inputStride, CamObj.setBytesPerPixel, item]
    · have even : 2 ∣ sizes.dmaHalfBufferSize := dvd_trans (Nat.dvd_mul_left 2 _) line
      simp only [Setup.pixelsPerDma, inputStride, CamObj.setBytesPerPixel, item]
      simp only [UInt8.reduceToNat, Nat.mul_one, Nat.one_mul, and_self, if_true]
      exact Nat.div_mul_cancel even
  · simp only [CamObj.setBytesPerPixel, UInt32.toNat_mul, UInt16.toNat_toUInt32,
      UInt8.toNat_toUInt32]
    rw [Nat.mod_eq_of_lt pixels]
    rcases bytes with ⟨rfl, rfl⟩ | ⟨rfl, rfl⟩ | ⟨rfl, rfl⟩
    · simp [inputStride]
    · simp [inputStride]
    · simp only [inputStride, UInt8.reduceToNat, and_self, if_true, Nat.mul_one]
      rw [Nat.mod_eq_of_lt pixels, Nat.mod_eq_of_lt (by omega)]

/-- Frames of one of these formats that are copied: as long as the camera is punctual, every
frame in the queue is a contiguous part of what the camera has sent. -/
theorem queued_frames_complete
    (format : cameraConfig.pixelFormat = .rgb565 ∨ cameraConfig.pixelFormat = .yuv422 ∨
      cameraConfig.pixelFormat = .grayscale) (clock : cameraConfig.xclkFreqHz ≠ 16000000)
    (groups : 4 ∣ width.toNat) (fits : width.toNat * height.toNat * 2 < 2 ^ 31)
    (configured : setup.cam = camConfig Unedited.llCamSetSampleMode Unedited.psramMode
      cameraConfig width height sensorPid emptyCamObj)
    (computed : llCamDmaSizes config setup.cam = .ok setup.sizes) (positive : 0 < setup.frameCnt)
    (contents : Nat → Memory) (dmaBuffer : Memory) (actions : List Action)
    (punctual : EachStep (observe setup) (Punctual setup) (Observed.initial contents dmaBuffer)
      actions) :
    Always (observe setup) (fun observed =>
      ∀ x ∈ observed.driver.frameBufferQueue,
        Complete setup observed.sent (observed.driver.frames x))
      (Observed.initial contents dmaBuffer) actions := by
  have copying : Copying setup := by
    rcases setup with ⟨cam, sizes, grabLatest⟩
    simp only at configured computed
    rw [configured] at computed ⊢
    exact copying_of_camConfig format clock groups fits computed grabLatest
  have delivers : Always (observe setup) (Delivers setup) (Observed.initial contents dmaBuffer)
      actions :=
    Always.of_steps (fun _ _ delivers punctual => delivers_step copying delivers punctual)
      (delivers_initial positive contents dmaBuffer) punctual
  exact delivers.imp fun _ delivers x queued => delivers.completes x (Or.inl queued)

end Configured

/-- Four by two gray pixels, received as one half of sixteen bytes. -/
def smallSetup : Setup :=
  ⟨camConfig Unedited.llCamSetSampleMode Unedited.psramMode ⟨.grayscale, 15000000, 2⟩ 4 2
    ov2640Pid emptyCamObj, ⟨1, 8192, 16, 512, 16⟩, false⟩

/-- A frame is received and sent. -/
def receiveSmallFrame : List Action :=
  [.interrupt .vsync, .task, .task, .task, .task, .task] ++
    [.byte 10, .byte 128, .byte 11, .byte 128, .byte 12, .byte 128, .byte 13, .byte 128,
      .byte 20, .byte 128, .byte 21, .byte 128, .byte 22, .byte 128, .byte 23, .byte 128] ++
    [.interrupt .inSucEof, .task, .task, .interrupt .vsync, .task, .task, .task]

theorem queued_small_frame_complete :
    0 ∈ (receiveSmallFrame.foldl (observe smallSetup)
        (Observed.initial (fun _ _ => 0) (fun _ => 0))).driver.frameBufferQueue ∧
      Always (observe smallSetup) (fun observed =>
        ∀ x ∈ observed.driver.frameBufferQueue,
          Complete smallSetup observed.sent (observed.driver.frames x))
        (Observed.initial (fun _ _ => 0) (fun _ => 0)) receiveSmallFrame :=
  ⟨by decide +kernel,
    @queued_frames_complete smallSetup ⟨8192, by decide, by decide⟩ ⟨.grayscale, 15000000, 2⟩ 4 2
      ov2640Pid (Or.inr (Or.inr rfl)) (by decide) (by decide) (by decide) rfl (by decide +kernel)
      (by decide) _ _ _ (by decide +kernel)⟩

end ECam.Camera
