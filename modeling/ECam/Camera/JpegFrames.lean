import ECam.Camera.Bounds
import ECam.Camera.Filling

/-!
# Compressed frames

The length of a compressed frame is not known before it has been received.  The task looks
for the start marker in the first half and gives the frame up if it is missing; `cam_take`
looks for the end marker and gives the frame back if it is missing.  What the application
holds then starts and ends as it should, in every run.
-/

namespace ECam.Camera

open ECam.Library
open ECam.ImageProcessing

/-- The frame starts with a start marker. -/
def Starts (frame : CamFrame) : Prop :=
  frame.buf 0 = 0xFF ∧ frame.buf 1 = 0xD8 ∧ frame.buf 2 = 0xFF

/-- The frame starts with a start marker and ends with an end marker. -/
structure Delimited (frame : CamFrame) : Prop where
  starts : Starts frame
  long : 3 ≤ frame.len
  first : frame.buf (frame.len - 2) = 0xFF
  second : frame.buf (frame.len - 1) = 0xD9

/-- The frame that is being filled starts with a marker, once a half was copied. -/
def Begun (driver : Driver) : Prop :=
  driver.cnt ≠ 0 → Starts driver.frame ∧ 3 ≤ driver.frame.len

/-- Compressed frames are copied in halves that are not too short. -/
structure Compressed (setup : Setup) : Prop where
  psram : setup.cam.psramMode = false
  jpeg : setup.cam.jpegMode = true
  long : 3 ≤ setup.pixelsPerDma
  copied : ∀ driver : Driver,
    (driver.copyHalf setup).len = driver.frame.len + setup.pixelsPerDma

variable {config : DmaBufferSizeMax} {setup : Setup} {driver : Driver}

theorem compressed_of_configured (configured : Configured config setup)
    (psram : setup.cam.psramMode = false) (jpeg : setup.cam.jpegMode = true) :
    Compressed setup := by
  refine ⟨psram, jpeg, ?_, fun driver => configured.copyHalf_len⟩
  have item := configured.item
  have half : setup.sizes.dmaHalfBufferSize = 1024 := by
    have computed := configured.computed
    rw [llCamDmaSizes, if_pos jpeg, psram] at computed
    rw [← Except.ok.inj computed]
  unfold Setup.pixelsPerDma
  rw [half, item, Nat.one_mul]
  rcases configured.bytes with ⟨inBytes, fbBytes⟩ | ⟨same, nonzero⟩
  · rw [inBytes, fbBytes]
    decide
  · have positive : 0 < setup.cam.fbBytesPerPixel.toNat := by
      refine Nat.pos_of_ne_zero fun zero => nonzero ?_
      rw [same]
      exact UInt8.toNat_inj.mp zero
    rw [same, Nat.mul_div_cancel _ positive]
    decide

/-- Copying another half does not touch the start. -/
theorem starts_copyHalf (starts : Starts driver.frame) (long : 3 ≤ driver.frame.len) :
    Starts (driver.copyHalf setup) := by
  have kept : ∀ index, index < 3 →
      (driver.copyHalf setup).buf index = driver.frame.buf index :=
    fun index inside => llCamMemcpy_outside setup.cam (Or.inl (by omega))
  unfold Starts
  rw [kept 0 (by decide), kept 1 (by decide), kept 2 (by decide)]
  exact starts

/-! ## The frame that is being filled -/

theorem begun_camTaskEof (compressed : Compressed setup) (begun : Begun driver)
    (reading : (camTaskEof setup driver).state = .readBuf) :
    Begun (camTaskEof setup driver) := by
  unfold camTaskEof at reading ⊢
  split at reading
  next overflow =>
    rw [if_pos overflow]
    exact begun
  next room =>
    rw [if_neg room]
    simp only [compressed.psram, compressed.jpeg, Bool.false_eq_true, if_false, true_and]
      at reading ⊢
    split at reading
    next => cases reading
    next accepted =>
      rw [if_neg accepted]
      have longer : 3 ≤ (driver.copyHalf setup).len := by
        have added := compressed.copied driver
        have long := compressed.long
        omega
      intro _
      simp only [Driver.frame, Driver.setFrame, Function.update_self]
      refine ⟨?_, longer⟩
      by_cases first : driver.cnt = 0
      · rw [not_and, not_not] at accepted
        exact camVerifyJpegSoi_eq_zero_iff.mp (accepted first)
      · exact starts_copyHalf (begun first).1 (begun first).2

theorem begun_storeByte (compressed : Compressed setup) (value : UInt8) (begun : Begun driver) :
    Begun (storeByte setup value driver) := by
  simp only [storeByte, compressed.psram, Bool.false_eq_true, if_false]
  split
  next => exact begun
  next => exact begun

theorem begun_rule (compressed : Compressed setup) :
    FillRule setup Begun (fun _ => True) where
  fill_same := by
    intro driver next same begun
    unfold Begun
    rw [same.cnt, same.frame]
    exact begun
  begun_same := fun _ _ => trivial
  begun_stop := fun _ => trivial
  fill_byte := fun value begun => begun_storeByte compressed value begun
  begun_byte := fun _ _ => trivial
  start := fun _ _ => trivial
  started := fun _ _ _ cnt _ again => absurd cnt again
  copied := fun begun reading => begun_camTaskEof compressed begun reading

/-- A compressed frame is only sent after a half was copied. -/
theorem starts_of_sending (compressed : Compressed setup)
    (filling : driver.Filling Begun (fun _ => True)) (handling : driver.stage = .handle .vsync)
    (reading : driver.state = .readBuf) (sending : (camTaskVsync setup driver).Sending) :
    Starts ((camTaskVsync setup driver).frames driver.framePos) := by
  unfold Driver.Filling at filling
  rw [handling] at filling
  have begun := filling reading
  unfold camTaskVsync at sending ⊢
  simp only [compressed.psram, compressed.jpeg, lastHalf, finishFrame, Bool.false_eq_true,
    Bool.true_eq_false, if_false, or_false, if_true, false_and] at sending ⊢
  split at sending
  next copied =>
    rw [if_pos copied]
    simp only [Driver.setFrame, Function.update_self]
    split
    next => exact (begun copied).1
    next => exact starts_copyHalf (begun copied).1 (begun copied).2
  next => cases sending

/-! ## Frames of the application -/

/-- The application does not write to its frames. -/
def OnlyReads (_ : Driver) : Action → Prop
  | .write _ _ _ => False
  | _ => True

/-- A frame that `cam_take` hands over has an end marker. -/
theorem camTake_held (compressed : Compressed setup) {x : Nat}
    (held : x ∈ (camTake setup driver).held) :
    x ∈ driver.held ∨ (x ∈ driver.frameBufferQueue ∧
      ∃ offset, camVerifyJpegEoi (driver.frames x).buf (driver.frames x).len = some offset ∧
        (camTake setup driver).frames x = { driver.frames x with len := offset + 2 }) := by
  cases queued : driver.frameBufferQueue with
  | nil =>
      simp only [camTake, queued] at held
      exact Or.inl held
  | cons y others =>
      cases found : camVerifyJpegEoi (driver.frames y).buf (driver.frames y).len with
      | none =>
          simp only [camTake, queued, compressed.jpeg, if_true, found, camGive_held] at held
          exact Or.inl held
      | some offset =>
          simp only [camTake, queued, compressed.jpeg, if_true, found] at held ⊢
          rcases List.mem_cons.mp held with rfl | before
          · refine Or.inr ⟨List.mem_cons_self, offset, found, ?_⟩
            simp only [Driver.setFrame, Function.update_self]
          · exact Or.inl before

theorem delimited_of_eoi {frame : CamFrame} {offset : Nat} (starts : Starts frame)
    (found : camVerifyJpegEoi frame.buf frame.len = some offset) :
    Delimited { frame with len := offset + 2 } := by
  rcases (camVerifyJpegEoi_eq_some_iff.mp found).1 with ⟨positive, -, first, second⟩
  exact ⟨starts, by simp only; omega, first, second⟩

theorem delimited_step (compressed : Compressed setup) (ownership : Ownership setup driver)
    (queued : driver.AllQueued Starts) (delimited : ∀ x ∈ driver.held, Delimited (driver.frames x))
    {action : Action} (reads : OnlyReads driver action) :
    ∀ x ∈ (step setup driver action).held, Delimited ((step setup driver action).frames x) := by
  have kept : ∀ x ∈ driver.held, action ≠ .give x →
      Delimited ((step setup driver action).frames x) := by
    intro x held notGiven
    have unwritten : ∀ index value, action ≠ .write x index value := by
      rintro index value rfl
      exact reads
    rw [(held_step ownership held notGiven unwritten).2]
    exact delimited x held
  intro x held
  cases action with
  | interrupt | task | byte =>
      rw [held_of_not_application id] at held
      exact kept x held (fun give => nomatch give)
  | take =>
      rcases camTake_held compressed held with before | ⟨inQueue, offset, found, frame⟩
      · exact kept x before (fun give => nomatch give)
      · rw [step, frame]
        exact delimited_of_eoi (queued x (Or.inl inQueue)) found
  | give y =>
      have nodup := (List.nodup_append.mp (List.nodup_append.mp ownership.tracks.nodup).2.1).2.1
      simp only [step] at held
      split at held
      next =>
        have before : x ∈ driver.held := List.mem_of_mem_erase held
        refine kept x before ?_
        rintro ⟨rfl⟩
        exact nodup.not_mem_erase held
      next notHeld =>
        refine kept x held ?_
        rintro ⟨rfl⟩
        exact notHeld held
  | write y index value => cases reads

/-- In every run in which the application does not write to its frames, every compressed
frame that it holds starts with a start marker and ends with an end marker. -/
theorem held_jpeg_frames_delimited (configured : Configured config setup)
    (psram : setup.cam.psramMode = false) (jpeg : setup.cam.jpegMode = true)
    (positive : 0 < setup.frameCnt) (contents : Nat → Memory) (dmaBuffer : Memory)
    (actions : List Action)
    (reads : EachStep (step setup) OnlyReads (Driver.initial contents dmaBuffer) actions) :
    Always (step setup) (fun driver => ∀ x ∈ driver.held, Delimited (driver.frames x))
      (Driver.initial contents dmaBuffer) actions := by
  have compressed := compressed_of_configured configured psram jpeg
  have along : Always (step setup) (fun driver =>
      Ownership setup driver ∧ driver.Filling Begun (fun _ => True) ∧ driver.AllQueued Starts ∧
        ∀ x ∈ driver.held, Delimited (driver.frames x))
      (Driver.initial contents dmaBuffer) actions := by
    refine Always.of_steps ?_ ⟨ownership_initial positive contents dmaBuffer,
      filling_initial contents dmaBuffer, ?_, ?_⟩ reads
    · rintro driver action ⟨ownership, filling, queued, delimited⟩ reads
      refine ⟨ownership_step ownership action,
        filling_step (begun_rule compressed) ownership filling action, ?_,
        delimited_step compressed ownership queued delimited reads⟩
      exact allQueued_step ownership queued action (fun _ handling reading sending =>
        starts_of_sending compressed filling handling reading sending)
    · rintro x (queued | ⟨sending, -⟩)
      · cases queued
      · cases sending
    · intro x held
      cases held
  exact along.imp fun _ known => known.2.2.2

instance : ∀ (driver : Driver) (action : Action), Decidable (OnlyReads driver action)
  | _, .write _ _ _ => isFalse id
  | _, .interrupt _ => isTrue trivial
  | _, .task => isTrue trivial
  | _, .byte _ => isTrue trivial
  | _, .take => isTrue trivial
  | _, .give _ => isTrue trivial

/-- Compressed frames with the driver of the component. -/
def jpegSetup : Setup :=
  ⟨camConfig Unedited.llCamSetSampleMode Unedited.psramMode ⟨.jpeg, 15000000, 2⟩ 240 240
    ov2640Pid emptyCamObj, ⟨1, 16384, 1024, 16, 1024⟩, false⟩

theorem jpegSetup_configured : Configured ⟨32768, by decide, by decide⟩ jpegSetup := by
  constructor
  · decide
  · exact fun uncompressed => nomatch uncompressed
  · exact Or.inr ⟨by decide, by decide⟩
  · exact fun psram => nomatch psram

/-- Two halves with a start marker and an end marker. -/
def jpegHalves : Memory := fun index =>
  if index = 0 ∨ index = 2 ∨ index = 2040 then 0xFF
  else if index = 1 then 0xD8
  else if index = 2041 then 0xD9
  else 0

/-- A compressed frame is started, copied, sent and taken. -/
def takeJpegFrame : List Action :=
  [.interrupt .vsync, .task, .task, .task, .task, .task, .interrupt .inSucEof, .task, .task,
    .interrupt .vsync, .task, .task, .task, .take]

theorem held_jpeg_frame_delimited :
    0 ∈ (takeJpegFrame.foldl (step jpegSetup) (Driver.initial (fun _ _ => 0) jpegHalves)).held ∧
      Always (step jpegSetup) (fun driver => ∀ x ∈ driver.held, Delimited (driver.frames x))
        (Driver.initial (fun _ _ => 0) jpegHalves) takeJpegFrame :=
  ⟨by decide +kernel, held_jpeg_frames_delimited jpegSetup_configured rfl rfl (by decide) _ _ _
    (by decide)⟩

end ECam.Camera
